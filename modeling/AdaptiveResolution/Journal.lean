namespace AdaptiveResolution.Journal

inductive Level where
  | trace
  | debug
  | info
  | warn
  | error
  deriving DecidableEq, Repr

inductive Origin where
  | pacing
  | presentation
  | platform
  | shader
  | texture
  | swapChain
  | demo
  deriving DecidableEq, Repr

structure Entry where
  level : Level
  origin : Origin
  text : String
  deriving DecidableEq, Repr

end AdaptiveResolution.Journal
