import QueryKit.Config.Coerce
import QueryKit.Value.Render

/-!
# Command lines

A program of commands: a root command that only lists its commands, flags every command
inherits from it, and the commands, each with flags of its own.

* the command a line names is found before any flag is read: words that are no flag, and no
  value of a flag that takes one, name the command; a first such word that names no command is
  refused at the root, with the commands it resembles;
* flags are then read as long (`--name`, `--name=value`, `--name value`) or short (`-n`,
  `-nvalue`, `-n=value`, `-n value`, several switches together), anywhere among the words; `--`
  ends them; a switch given alone is on, and a switch's value must be a boolean;
* every command has a `help` switch (`-h`); help, or a command that does nothing itself, prints
  the command's help;
* `Program.help` and `Program.usage` are the help texts: the summary, the use lines, the
  commands with their summaries, and the flags aligned in columns with their defaults.
-/

namespace QueryKit.Cli

/-- **Flags** a command takes: a name, perhaps a one-letter short name, what it is for, whether it
is a switch, and its default value as text. -/
structure Flag where
  name : String
  short : Option Char := none
  usage : String
  switch : Bool := false
  default : String := ""
  deriving Inhabited

/-- **What a command takes after its flags.** -/
inductive ArgRule where
  /-- Any words; a root with commands refuses a first word that names none of them. -/
  | lenient
  /-- No words at all. -/
  | none
  /-- At least this many words. -/
  | atLeast (n : Nat)
  deriving Inhabited, BEq

/-- **What a command offers for its words** when a shell asks how to complete a line. -/
inductive Offer where
  /-- Nothing of its own, so the shell may offer file names. -/
  | files
  /-- Nothing, and no file names either. -/
  | nothing
  /-- The commands under the one the words name, as the help command offers. -/
  | topics
  deriving Inhabited, BEq

/-- **Commands**: a name and the other names it answers to, what the use line shows after it, a
summary and a longer description, its own flags, the flags it needs, whether it does something
itself, what it takes after its flags, and the commands under it. -/
structure Command where
  name : String
  aliases : List String := []
  use : String := ""
  summary : String
  long : String := ""
  flags : List Flag := []
  required : List String := []
  runnable : Bool := true
  args : ArgRule := .none
  /-- Whether the command is offered among its parent's commands. -/
  offered : Bool := true
  /-- Whether its use line ends in `[flags]`. -/
  flagsInUse : Bool := true
  /-- Whether it reads flags at all; one that does not takes every word as it is. -/
  readsFlags : Bool := true
  offer : Offer := .files
  children : List Command := []

instance : Inhabited Command := ⟨{ name := "", summary := "" }⟩

/-- Whether a command answers to a word: its name or one of its other names. -/
def Command.answersTo (c : Command) (word : String) : Bool :=
  c.name == word || c.aliases.contains word

/-- **Programs**: the root command, whose children are the program's commands, and the flags
every command inherits from it. -/
structure Program where
  root : Command
  persistent : List Flag

/-- The help switch of a command. -/
def helpFlag (name : String) : Flag :=
  { name := "help", short := some 'h', usage := "help for " ++ name, switch := true, default := "false" }

/-- Whether a flag of a name is a switch. -/
def isSwitch (flags : List Flag) (name : String) : Bool :=
  (flags.find? (·.name == name)).any (·.switch)

/-- Whether the flag of a short name (the first letter of `name`) is a switch. -/
def shortIsSwitch (flags : List Flag) (name : String) : Bool :=
  match name.toList with
  | c :: _ => (flags.find? (·.short == some c)).any (·.switch)
  | [] => false

/-- Whether a word is a flag that takes the next word as its value. -/
def takesValue (flags : List Flag) (s : String) : Bool :=
  (s.startsWith "--" && !s.contains '=' && !isSwitch flags (s.drop 2).toString) ||
  (s.startsWith "-" && !s.contains '=' && s.utf8ByteSize == 2 && !shortIsSwitch flags (s.drop 1).toString)

/-- **The words that name commands**: the words that are no flags, without the values of flags
that take one; `--` ends them, and so does a flag that takes a value with at most one word after
it. -/
def stripFlags (flags : List Flag) : List String → List String
  | [] => []
  | "--" :: _ => []
  | s :: rest =>
    if takesValue flags s then
      match rest with
      | [] | [_] => []
      | _ :: more => stripFlags flags more
    else if !s.isEmpty && !s.startsWith "-" then s :: stripFlags flags rest
    else stripFlags flags rest
termination_by structural args => args

/-- The words without the first one that is `x` and no flag or flag value. -/
def withoutFirst (flags : List Flag) (x : String) : List String → List String
  | [] => []
  | s :: rest =>
    if s == "--" then s :: rest
    else if takesValue flags s then
      match rest with
      | v :: more => s :: v :: withoutFirst flags x more
      | [] => [s]
    else if !s.startsWith "-" && s == x then rest
    else s :: withoutFirst flags x rest

/-- One row of edit distances, for the next element of the first sequence. -/
def distanceRow {α : Type} [BEq α] (c : α) (row : List Nat) (i : Nat) (b : List α) : List Nat :=
  let (out, _, _) := (b.zip (row.zip (row.drop 1))).foldl
    (fun (acc : List Nat × Nat × Nat) (d, diag, up) =>
      let (out, left, _) := acc
      let v := min (min (up + 1) (left + 1)) (diag + (if c == d then 0 else 1))
      (out ++ [v], v, 0)) ([i], i, 0)
  out

/-- **The edit distance** of two texts, ignoring case, counted in the octets of their UTF-8
encodings: a character of two octets is two edits away from a character of one. -/
def distance (a b : String) : Nat :=
  let a := (Text.lower a).toUTF8.toList
  let b := (Text.lower b).toUTF8.toList
  let first := List.range (b.length + 1)
  let (last, _) := a.foldl (fun (acc : List Nat × Nat) c =>
    (distanceRow c acc.1 (acc.2 + 1) b, acc.2 + 1)) (first, 0)
  last.getLastD 0

/-- **Where a line lands**: the command it names, the names of the commands from the root's child
down to it (none for the root), the word it was called by, and the words left for it. -/
structure Landing where
  command : Command
  trail : List String
  calledAs : String
  rest : List String
  deriving Inhabited

/-- Whether a line lands on the root. -/
def Landing.atRoot (l : Landing) : Bool := l.trail.isEmpty

namespace Program

/-- The program's commands, in the order they were added. -/
def commands (p : Program) : List Command := p.root.children

/-- The commands offered, in the order they were added. -/
def offered (p : Program) : List Command := p.commands.filter (·.offered)

/-- **Commands a word resembles**: those within two edits of it, or that start with it. -/
def suggestionsFor (p : Program) (word : String) : List String :=
  (p.offered.filter (fun c => distance word c.name ≤ 2 || (Text.lower c.name).startsWith (Text.lower word))).map (·.name)

/-- The suggestions after a refusal, if there are any. -/
def suggestionText (p : Program) (word : String) : String :=
  match p.suggestionsFor word with
  | [] => ""
  | names => "\n\nDid you mean this?\n" ++ String.join (names.map (fun n => "\t" ++ n ++ "\n"))

/-- The path of a command: the root's name, then the names down to the command. -/
def pathOf (p : Program) (trail : List String) : String :=
  " ".intercalate (p.root.name :: trail)

/-- The flags known while the commands under a command are looked for. -/
def known (p : Program) (c : Command) (atRoot : Bool) : List Flag :=
  if atRoot then p.persistent else c.flags ++ p.persistent

/-- **Descending to the command a line names**, with fuel for the words: at each command, the
first word that is no flag names the command under it; where it names none, the line stays. -/
def descend (p : Program) : Nat → Landing → Landing
  | 0, l => l
  | fuel + 1, l =>
    let flags := p.known l.command l.atRoot
    match stripFlags flags l.rest with
    | [] => l
    | word :: _ =>
      match l.command.children.find? (·.answersTo word) with
      | some child =>
        descend p fuel ⟨child, l.trail ++ [child.name], word, withoutFirst flags word l.rest⟩
      | none => l

/-- **Finding the command a line names**, and the words left for it. A root with commands that
takes any words refuses a first word that names none of them, with the commands it resembles. -/
def find (p : Program) (args : List String) : Except String Landing :=
  let l := p.descend (args.length + 1) ⟨p.root, [], p.root.name, args⟩
  if l.atRoot && l.command.args == .lenient && !l.command.children.isEmpty then
    match stripFlags p.persistent l.rest with
    | word :: _ =>
      .error ("unknown command " ++ Text.quote word ++ " for " ++ Text.quote p.root.name ++ p.suggestionText word)
    | [] => .ok l
  else .ok l

end Program

/-- **What reading flags gives**: the flags set, by name, in the order set, and the words that
are no flags. -/
structure Parsed where
  set : List (String × String) := []
  args : List String := []
  deriving Inhabited

namespace Parsed

/-- The value last given to a flag. -/
def value (p : Parsed) (name : String) : Option String :=
  ((p.set.filter (·.1 == name)).getLast?).map (·.2)

/-- Whether a switch is on. -/
def on (p : Parsed) (name : String) : Bool := p.value name == some "true"

end Parsed

/-- **Setting a flag** to a value; a switch takes a boolean. -/
def setFlag (f : Flag) (value : String) (p : Parsed) : Except String Parsed :=
  if f.switch then
    match Config.parseBool value with
    | .ok b => .ok { p with set := p.set ++ [(f.name, if b then "true" else "false")] }
    | .error why =>
      let shown := match f.short with
        | some c => "-" ++ c.toString ++ ", --" ++ f.name
        | none => "--" ++ f.name
      .error ("invalid argument " ++ Text.quote value ++ " for " ++ Text.quote shown ++ " flag: " ++ why)
  else .ok { p with set := p.set ++ [(f.name, value)] }

/-- **Reading one word of short flags** (without its dash): each letter a flag, a flag that takes
a value taking the rest of the word, or else the next word. Gives the words left. -/
def shortFlags (flags : List Flag) : List Char → List String → Parsed → Except (String × Parsed) (Parsed × List String)
  | [], args, p => .ok (p, args)
  | c :: more, args, p =>
    let word := String.ofList (c :: more)
    match flags.find? (·.short == some c) with
    | none => .error ("unknown shorthand flag: '" ++ c.toString ++ "' in -" ++ word, p)
    | some f =>
      let pick : Option (String × Bool × List String) :=
        match more with
        | '=' :: v@(_ :: _) => some (String.ofList v, true, args)
        | _ =>
          if f.switch then some ("true", false, args)
          else if !more.isEmpty then some (String.ofList more, true, args)
          else match args with
            | v :: rest => some (v, true, rest)
            | [] => none
      match pick with
      | none => .error ("flag needs an argument: '" ++ c.toString ++ "' in -" ++ word, p)
      | some (v, used, args) =>
        match setFlag f v p with
        | .error e => .error (e, p)
        | .ok p => if used then .ok (p, args) else shortFlags flags more args p

/-- **Reading a long flag** (`--name`, `--name=value`), giving the words left. -/
def longFlag (flags : List Flag) (s : String) (args : List String) (p : Parsed) :
    Except (String × Parsed) (Parsed × List String) :=
  let body := (s.drop 2).toString
  if body.isEmpty || body.startsWith "-" || body.startsWith "=" then .error ("bad flag syntax: " ++ s, p)
  else
    let (name, given) := match body.splitOn "=" with
      | n :: v :: more => (n, some ("=".intercalate (v :: more)))
      | _ => (body, none)
    match flags.find? (·.name == name) with
    | none => .error ("unknown flag: --" ++ name, p)
    | some f =>
      let value : Option (String × List String) := match given with
        | some v => some (v, args)
        | none =>
          if f.switch then some ("true", args)
          else match args with
            | v :: rest => some (v, rest)
            | [] => none
      match value with
      | none => .error ("flag needs an argument: " ++ s, p)
      | some (v, rest) =>
        match setFlag f v p with
        | .ok p => .ok (p, rest)
        | .error e => .error (e, p)

/-- **Reading flags** among words, with fuel for the words: the flags and other words, and the
complaint about the first flag that cannot be read, with what was read before it. -/
def parseFlags (flags : List Flag) : Nat → List String → Parsed → Parsed × Option String
  | 0, _, p => (p, none)
  | _ + 1, [], p => (p, none)
  | fuel + 1, s :: rest, p =>
    if s.isEmpty || !s.startsWith "-" || s.length == 1 then
      parseFlags flags fuel rest { p with args := p.args ++ [s] }
    else if s == "--" then ({ p with args := p.args ++ rest }, none)
    else
      let step := if s.startsWith "--" then longFlag flags s rest p
        else shortFlags flags (s.drop 1).toString.toList rest p
      match step with
      | .ok (p, more) => parseFlags flags fuel more p
      | .error (e, p) => (p, some e)

/-! ## Help -/

/-- Spaces. -/
def spaces (n : Nat) : String := String.ofList (List.replicate n ' ')

/-- A text padded with spaces to a width. -/
def pad (s : String) (width : Nat) : String := s ++ spaces (width - s.length)

/-- Sorts flags by name. -/
def sortFlags (fs : List Flag) : List Flag := (sortByKey (fs.map (fun f => (f.name, f)))).map (·.2)

/-- The head of a flag's line: its names and the kind of value it takes. -/
def Flag.head (f : Flag) : String :=
  (match f.short with
    | some c => "  -" ++ c.toString ++ ", --" ++ f.name
    | none => "      --" ++ f.name) ++ (if f.switch then "" else " string")

/-- What a flag is for, with its default when that is not the empty value. -/
def Flag.described (f : Flag) : String :=
  f.usage ++
    (if f.switch then (if f.default == "false" || f.default.isEmpty then "" else " (default " ++ f.default ++ ")")
    else if f.default.isEmpty then "" else " (default " ++ Text.quote f.default ++ ")")

/-- **The lines of flags**, sorted by name, the descriptions in one column. -/
def flagLines (fs : List Flag) : String :=
  let fs := sortFlags fs
  let width := fs.foldl (fun m f => max m (f.head.length + 1)) 0
  "\n".intercalate (fs.map (fun f => f.head ++ " " ++ spaces (width - f.head.length) ++ " " ++ f.described))

namespace Program

/-- The flags of a command, its help switch included: its own, and for the root the inherited
ones too. -/
def ownFlags (p : Program) (c : Command) (atRoot : Bool) : List Flag :=
  (if atRoot then p.persistent else c.flags) ++ [helpFlag c.name]

/-- The flags a command inherits. -/
def inherited (p : Program) (atRoot : Bool) : List Flag := if atRoot then [] else p.persistent

/-- The commands a command lists, sorted by name: those offered, and help. -/
def listing (c : Command) : List Command :=
  (sortByKey ((c.children.filter (fun x => x.offered || x.name == "help")).map (fun x => (x.name, x)))).map (·.2)

/-- **The usage text** of a command. The names of the commands it lists stand in a column as wide
as its longest command's name, and at least eleven. -/
def usage (p : Program) (c : Command) (trail : List String) : String :=
  let atRoot := trail.isEmpty
  let path := p.pathOf trail
  let listed := listing c
  let width := max 11 (c.children.foldl (fun m x => max m x.name.utf8ByteSize) 0)
  "Usage:" ++
  (if c.runnable then
    "\n  " ++ path ++ (if c.use.isEmpty then "" else " " ++ c.use) ++ (if c.flagsInUse then " [flags]" else "")
  else "") ++
  (if listed.isEmpty then "" else "\n  " ++ path ++ " [command]") ++
  (if listed.isEmpty then "" else
    "\n\nAvailable Commands:" ++ String.join (listed.map (fun x => "\n  " ++ pad x.name width ++ " " ++ x.summary))) ++
  "\n\nFlags:\n" ++ flagLines (p.ownFlags c atRoot) ++
  (match p.inherited atRoot with
    | [] => ""
    | fs => "\n\nGlobal Flags:\n" ++ flagLines fs) ++
  (if listed.isEmpty then "" else
    "\n\nUse \"" ++ path ++ " [command] --help\" for more information about a command.") ++ "\n"

/-- **The help text** of a command: its description, then its usage. -/
def help (p : Program) (c : Command) (trail : List String) : String :=
  (if c.long.isEmpty then c.summary else c.long).trimAsciiEnd.toString ++ "\n\n" ++ p.usage c trail

end Program
end QueryKit.Cli
