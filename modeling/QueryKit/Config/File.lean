import QueryKit.Config.Settings
import QueryKit.Config.Toml
import QueryKit.Yaml.Decode
import QueryKit.Json.Parse
import QueryKit.Decimal.Parse

/-!
# Configuration files

A configuration file is YAML, JSON or TOML, told by its extension in any case (`.yaml`, `.yml`,
`.json`, `.toml`); any other extension is refused before the file is looked at. Its document
must be a mapping, and becomes the file layer of a store with every key in lower case.

* once a file of a known format is chosen it counts as the store's file, whether or not it could
  be read;
* a file that cannot be read, or whose text does not parse, leaves the file layer as it was;
* YAML values keep their resolved types; JSON numbers are all doubles; TOML integers are 64-bit
  integers.
-/

namespace QueryKit.Config

/-- **File formats.** -/
inductive FileFormat where
  | yaml
  | json
  | toml
  deriving BEq, Inhabited

/-- The extension of a path: from its last point on, unless a slash comes after it. -/
def extensionOf (path : String) : String :=
  let cs := path.toList.reverse
  let tail := cs.takeWhile (fun c => c != '/' && c != '.')
  match cs.drop tail.length with
  | '.' :: _ => String.ofList ('.' :: tail.reverse)
  | _ => ""

/-- The format a path's extension names. -/
def FileFormat.ofPath (path : String) : Option FileFormat :=
  match Text.lower (extensionOf path) with
  | ".yaml" | ".yml" => some .yaml
  | ".json" => some .json
  | ".toml" => some .toml
  | _ => none

/-- **A JSON value as a configuration value**: numbers become doubles, and a number too large
for a double is refused. -/
def jsonValue : Json → Except String Value
  | .null => .ok .null
  | .bool b => .ok (.bool b)
  | .num lit =>
    match Decimal.readFloat lit with
    | .ok x => .ok (.float x)
    | .error _ => .error ("json: cannot unmarshal number " ++ lit ++ " into Go value of type float64")
  | .str s => .ok (.text s)
  | .arr items => return .list (← jsonItems items)
  | .obj members => return .map (← jsonMembers members)
where
  /-- Items of an array. -/
  jsonItems : List Json → Except String (List Value)
    | [] => .ok []
    | v :: rest => return (← jsonValue v) :: (← jsonItems rest)
  /-- Members of an object, a later one of a name replacing an earlier one. -/
  jsonMembers : List (String × Json) → Except String (List (String × Value))
    | [] => .ok []
    | (k, v) :: rest => do
      let value ← jsonValue v
      let later ← jsonMembers rest
      return if later.any (·.1 == k) then later else (k, value) :: later

/-- The JSON name of a document's kind, as a complaint about it names it. -/
def jsonKind : Json → String
  | .null => "null"
  | .bool _ => "bool"
  | .num _ => "number"
  | .str _ => "string"
  | .arr _ => "array"
  | .obj _ => "object"

/-- Reads a YAML document that must be a mapping. -/
def readYaml (text : String) : Except String Layer :=
  match Yaml.parse text with
  | .error p => .error p.text
  | .ok none => .ok []
  | .ok (some doc) =>
    match doc.decode (·.record?) with
    | .error m => .error m
    | .ok members => .ok (members.getD [])

/-- Reads a JSON document that must be an object. -/
def readJson (text : String) : Except String Layer :=
  match Json.parse text with
  | .error m => .error m
  | .ok .null => .ok []
  | .ok (.obj members) => jsonValue.jsonMembers members
  | .ok j => .error ("json: cannot unmarshal " ++ jsonKind j ++ " into Go value of type map[string]interface \x7b\x7d")

/-- **Reading a document** of a format into a tree. -/
def FileFormat.read (f : FileFormat) (text : String) : Except String Layer :=
  match f with
  | .yaml => readYaml text
  | .json => readJson text
  | .toml => Toml.parse text

/-- **Folders**: the files a program finds in its working directory, each with its text. -/
structure Folder where
  files : List (String × String) := []

/-- The directory part of a path: what stands before its last slash. -/
def directoryOf (path : String) : String :=
  let cs := path.toList.reverse
  let name := cs.takeWhile (· != '/')
  String.ofList (cs.drop (name.length + 1)).reverse

/-- A path without leading `./` parts. -/
def dropHere : Nat → List Char → List Char
  | 0, cs => cs
  | fuel + 1, '.' :: '/' :: rest => dropHere fuel rest
  | _, cs => cs

/-- The text of a file in a folder. -/
def Folder.read (f : Folder) (path : String) : Option String :=
  let clean := String.ofList (dropHere path.length path.toList)
  (f.files.find? (fun p => String.ofList (dropHere p.1.length p.1.toList) == clean)).map (·.2)

/-- **Whether a file can be opened for appending** in a folder: its directory must be the
folder itself or hold one of the folder's files; otherwise the system's complaint. -/
def Folder.opens (f : Folder) (path : String) : Except String Unit :=
  let dir := String.ofList (dropHere path.length (directoryOf path).toList)
  if dir.isEmpty || dir == "." then .ok ()
  else if f.files.any (fun p => (String.ofList (dropHere p.1.length p.1.toList)).startsWith (dir ++ "/")) then .ok ()
  else .error ("open " ++ path ++ ": no such file or directory")

namespace Store

/-- **Reading a configuration file** into a store: `content` is the file's text, or nothing
when there is no such file. Gives the store and, when the file was not read, the fault. -/
def loadFile (s : Store) (path : String) (content : Option String) : Store × Option Fault :=
  let fault (why : String) : Fault :=
    .config "config" (.text path) "cannot read config file" (some (.plain why))
  match FileFormat.ofPath path with
  | none => (s, some (.config "config" (.text path) "unsupported config file format" none))
  | some format =>
    let chosen := { s with fileUsed := some path }
    match content with
    | none => (chosen, some (fault ("open " ++ path ++ ": no such file or directory")))
    | some text =>
      match format.read text with
      | .ok tree => ({ chosen with file := insensitiveMembers tree }, none)
      | .error why => (chosen, some (fault ("While parsing config: " ++ why)))

end Store
end QueryKit.Config
