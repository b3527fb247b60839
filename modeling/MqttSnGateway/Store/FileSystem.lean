import MqttSnGateway.Store.Entries

namespace MqttSnGateway

def pathComponents : List UInt8 → List (List UInt8)
  | [] => [[]]
  | byte :: rest =>
    if byte = 47 then [] :: pathComponents rest
    else match pathComponents rest with
      | [] => [[byte]]
      | first :: others => (byte :: first) :: others

/-- One step of path resolution on the directories entered so far, innermost first. -/
def enterComponent (directory : List (List UInt8)) (component : List UInt8) : List (List UInt8) :=
  if component = [] then directory
  else if component = [46] then directory
  else if component = [46, 46] then directory.tail
  else component :: directory

/-- The file a path names for a process in `cwd`: an absolute path starts at the root directory. -/
def resolve (cwd : List (List UInt8)) (path : List UInt8) : List (List UInt8) :=
  (pathComponents path).foldl enterComponent (if path.head? = some 47 then [] else cwd)

/-- `SDLinuxFake`: the directory it was given and the process it runs in. `foreign` tells which files
    that the gateway did not create exist. -/
structure SDLinuxFake where
  rootPath : List UInt8
  cwd : List (List UInt8)
  foreign : List (List UInt8) → Bool

namespace SDLinuxFake

/-- `SD.open` builds `_rootPath + "/" + filename`; this is where the store's files are. -/
def openPath (sd : SDLinuxFake) (filename : List UInt8) : List (List UInt8) :=
  resolve sd.cwd (sd.rootPath ++ 47 :: filename)

/-- `SD.exists` looks at `_rootPath + filepath`. A file of the store exists once it was opened. -/
def «exists» (sd : SDLinuxFake) (filename : List UInt8) : Bool :=
  let path := resolve sd.cwd (sd.rootPath ++ filename)
  path = sd.openPath filename || sd.foreign path

/-- `SD.remove` passes the bare name to `std::remove`; tells whether that is the file of the store. -/
def removes (sd : SDLinuxFake) (filename : List UInt8) : Bool :=
  resolve sd.cwd filename = sd.openPath filename

end SDLinuxFake

/-- The file endings `.REG`, `.SUB`, `.WIL` and `.PUB`. -/
inductive FileEnding where
  | registration
  | subscribe
  | will
  | publish
deriving DecidableEq

def FileEnding.bytes : FileEnding → List UInt8
  | .registration => [46, 82, 69, 71]
  | .subscribe => [46, 83, 85, 66]
  | .will => [46, 87, 73, 76]
  | .publish => [46, 80, 85, 66]

def filenameWithExtension (number : CString) (ending : FileEnding) : List UInt8 :=
  number.bytes ++ ending.bytes

def ClientFiles.clear (files : ClientFiles) : FileEnding → ClientFiles
  | .registration => { files with reg := [], regBehind := 0 }
  | .subscribe => { files with sub := [], subBehind := 0 }
  | .will => { files with wil := Option.none }
  | .publish => { files with pub := [], pubBehind := 0 }

/-- `delete_file` on a file of the client with this file number. -/
def SDLinuxFake.deleteFile (sd : SDLinuxFake) (number : CString) (files : ClientFiles) (ending : FileEnding) :
    ClientFiles :=
  let name := filenameWithExtension number ending
  if sd.exists name then
    if sd.removes name then files.clear ending else files
  else files

end MqttSnGateway
