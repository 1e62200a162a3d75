namespace AdaptiveResolution.Presentation

abbrev BackBuffer := Fin 2

namespace BackBuffer

def first : BackBuffer := 0

def ofFrame (n : Nat) : BackBuffer := Fin.ofNat 2 n

def flip (i : BackBuffer) : BackBuffer := i + 1

def text (i : BackBuffer) : String := Nat.repr i.val

end BackBuffer

end AdaptiveResolution.Presentation
