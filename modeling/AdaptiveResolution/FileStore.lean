namespace AdaptiveResolution

inductive FileError where
  | notFound
  | isDirectory
  | notDirectory
  | nameTooLong
  | invalidText
  | nulInName
  deriving DecidableEq, Repr

def FileError.message : FileError → String
  | notFound => "No such file or directory (os error 2)"
  | isDirectory => "Is a directory (os error 21)"
  | notDirectory => "Not a directory (os error 20)"
  | nameTooLong => "File name too long (os error 36)"
  | invalidText => "stream did not contain valid UTF-8"
  | nulInName => "file name contained an unexpected NUL byte"

structure FileStore where
  files : List (List UInt8 × ByteArray)
  folders : List (List UInt8)

namespace FileStore

inductive Place where
  | outside
  | top
  | folder
  | file (contents : ByteArray)

def slash : UInt8 := 47
def dot : UInt8 := 46

def Place.follow (store : FileStore) (name : List UInt8) : Place → Except FileError Place
  | file _ => .error .notDirectory
  | place =>
    if name = [] ∨ name = [dot] then .ok place
    else if name = [dot, dot] then
      match place with
      | folder => .ok top
      | _ => .ok outside
    else if 255 < name.length then .error .nameTooLong
    else
      match place with
      | top =>
        match store.files.lookup name with
        | some contents => .ok (file contents)
        | none => if name ∈ store.folders then .ok folder else .error .notFound
      | _ => .error .notFound

def components (path : List UInt8) : List (List UInt8) := path.splitOnP (· == slash)

def resolve (store : FileStore) (path : List UInt8) : Except FileError Place :=
  if 4095 < path.length then .error .nameTooLong
  else
    match components path with
    | [] => .error .notFound
    | [[]] => .error .notFound
    | [] :: rest => rest.foldlM (fun place name => place.follow store name) .outside
    | names => names.foldlM (fun place name => place.follow store name) .top

def readText (store : FileStore) (path : List UInt8) : Except FileError String :=
  if (0 : UInt8) ∈ path then .error .nulInName
  else
    match store.resolve path with
    | .error e => .error e
    | .ok (.file contents) =>
      match String.fromUTF8? contents with
      | some text => .ok text
      | none => .error .invalidText
    | .ok _ => .error .isDirectory

end FileStore

end AdaptiveResolution
