import QueryKit.Cli.Command

/-!
# Completing command lines

What the hidden command `__complete` answers a shell: the choices for the last word of a line,
one a line with its description after a tab, and last a directive. The words before the last
one are read as the line would be run:

* they must name a command, or there is nothing to offer;
* a last word after a flag that takes a value, or after `--flag=`, is that flag's value, and
  nothing is offered for it;
* a last word that starts with `-` is a flag's name: the flags the command needs and has not been
  given, or when it has them all, every flag it has not been given;
* any other last word is offered the commands under the command (when no word and no flag of the
  command's own came before it) and the flags it still needs, then what the command offers for
  its words.

The directive is a set of bits: `1` an error, `2` no space after the choice, `4` no file names,
`8` and `16` file names filtered by extension or directories only, `32` keep the order.
-/

namespace QueryKit.Cli

/-- **Directives** to the shell, as bits. -/
structure Directive where
  bits : Nat
  deriving BEq, Inhabited

namespace Directive

/-- Nothing special: the shell may offer file names. -/
def plain : Directive := ⟨0⟩

/-- No space after the choice. -/
def noSpace : Directive := ⟨2⟩

/-- No file names. -/
def noFiles : Directive := ⟨4⟩

/-- The names of the bits. -/
def names : List (Nat × String) :=
  [(1, "ShellCompDirectiveError"), (2, "ShellCompDirectiveNoSpace"), (4, "ShellCompDirectiveNoFileComp"),
   (8, "ShellCompDirectiveFilterFileExt"), (16, "ShellCompDirectiveFilterDirs"),
   (32, "ShellCompDirectiveKeepOrder")]

/-- **The directive in words**: the names of its bits, or the plain directive's name. -/
def text (d : Directive) : String :=
  if d.bits ≥ 64 then "ERROR: unexpected ShellCompDirective value: " ++ toString d.bits
  else
    match names.filter (fun (b, _) => d.bits &&& b != 0) with
    | [] => "ShellCompDirectiveDefault"
    | ns => ", ".intercalate (ns.map (·.2))

end Directive

/-- **An answer**: the choices, the directive, and the complaint that cut the answer short. -/
structure Answer where
  choices : List String
  directive : Directive
  problem : Option String := none
  deriving Inhabited

/-- An answer with nothing to offer, because of a complaint. -/
def Answer.refused (why : String) : Answer := ⟨[], .plain, some why⟩

/-- **The choices for a flag's names** that start with the word typed: the long name, then the
short one, each with what the flag is for. -/
def flagChoices (word : String) (f : Flag) : List String :=
  let long := "--" ++ f.name
  (if long.startsWith word then [long ++ "\t" ++ f.usage] else []) ++
  (match f.short with
    | some c =>
      let short := "-" ++ c.toString
      if short.startsWith word then [short ++ "\t" ++ f.usage] else []
    | none => [])

/-- **Whether a word is a flag** with its name complete: `-x…`, or anything whose second octet
is `-` and that has three octets or more. -/
def isFlagWord (s : String) : Bool :=
  match s.toUTF8.toList with
  | a :: b :: rest => (!rest.isEmpty && b == 45) || (a == 45 && b != 45)
  | _ => false

/-- The last character of a word, as a word. -/
def lastLetter (s : String) : String :=
  match s.toList.getLast? with
  | some c => c.toString
  | none => ""

/-- **The flag a name means**: one letter is a short name, anything longer a long one. -/
def lookupFlag (flags : List Flag) (name : String) : Option Flag :=
  match name.toList with
  | [c] => flags.find? (·.short == some c)
  | _ => flags.find? (·.name == name)

/-- **The flag whose value is being typed**, if any: the flag before `=` in the last word, or a
flag that takes a value just before it. Gives the flag, the words before the value, the value
typed so far, and a complaint when the flag is unknown. -/
def valueOf (c : Command) (flags : List Flag) (args : List String) (last : String) :
    Option Flag × List String × String × Option String :=
  if !c.readsFlags then (none, args, last, none)
  else
    let split : Option (String × String) :=
      if last.startsWith "-" then
        match last.splitOn "=" with
        | before :: after@(_ :: _) =>
          some ((if before.startsWith "--" then (before.drop 2).toString else lastLetter before), "=".intercalate after)
        | _ => none
      else some ("", last)
    match split with
    | none => (none, args, last, none)
    | some (named, value) =>
      let withEqual := last.startsWith "-" && last.contains '='
      let (named, before) :=
        if !named.isEmpty then (named, args)
        else
          match args.getLast? with
          | some prev =>
            if isFlagWord prev && !prev.contains '=' then
              ((if prev.startsWith "--" then (prev.drop 2).toString else lastLetter prev), args.dropLast)
            else ("", args)
          | none => ("", args)
      if named.isEmpty then (none, before, value, none)
      else
        match lookupFlag flags named with
        | none => (none, args, last, some ("Subcommand '" ++ c.name ++ "' does not support flag '" ++ named ++ "'"))
        | some f => if !withEqual && f.switch then (none, args, value, none) else (some f, before, value, none)

/-- The commands a command lists whose names start with the word typed, with their summaries. -/
def commandChoices (c : Command) (word : String) : List String :=
  ((Program.listing c).filter (·.name.startsWith word)).map (fun x => x.name ++ "\t" ++ x.summary)

/-- **What a command offers for its words**, after the choices found so far. -/
def Program.offerFor (p : Program) (c : Command) (args : List String) (word : String)
    (choices : List String) (d : Directive) : List String × Directive :=
  match c.offer with
  | .files => (choices, d)
  | .nothing => (choices, .noFiles)
  | .topics =>
    match p.find args with
    | .ok l => (choices ++ commandChoices l.command word, .noFiles)
    | .error _ => (choices, .noFiles)

/-- **Answering a line**: the choices for its last word. -/
def Program.complete (p : Program) (args : List String) : Answer :=
  let word := args.getLast?.getD ""
  let before := args.dropLast
  match p.find before with
  | .error _ => .refused ("Unable to find a command for arguments: [" ++ " ".intercalate before ++ "]")
  | .ok l =>
    let c := l.command
    let own := p.ownFlags c l.atRoot
    let inherited := p.inherited l.atRoot
    let flags := own ++ inherited
    let (flag, finalArgs, word, unknown) := valueOf c flags l.rest word
    let fuel := finalArgs.length + 2
    let counted := if c.readsFlags then (parseFlags flags fuel (finalArgs ++ ["--"]) {}).1.args.length else 0
    let (parsed, problem) := if c.readsFlags then parseFlags flags fuel finalArgs {} else ({}, none)
    let real := if c.readsFlags then parsed.args.length else 0
    let flagsStillRead := !(counted > real)
    match problem with
    | some e => .refused ("Error while parsing flags from args [" ++ " ".intercalate finalArgs ++ "]: " ++ e)
    | none =>
      match unknown with
      | some e => if flagsStillRead then .refused e else body c own inherited flag parsed finalArgs word flagsStillRead
      | none => body c own inherited flag parsed finalArgs word flagsStillRead
where
  /-- The answer once the words before the last one are read. -/
  body (c : Command) (own inherited : List Flag) (flag : Option Flag) (parsed : Parsed)
      (finalArgs : List String) (word : String) (flagsStillRead : Bool) : Answer :=
    let given (f : Flag) : Bool := (parsed.value f.name).isSome
    if (parsed.value "help").isSome then ⟨[], .noFiles, none⟩
    else
      let finalArgs := if c.readsFlags then parsed.args else finalArgs
      let needed := (sortFlags inherited ++ sortFlags own).filter
        (fun f => c.required.contains f.name && !given f) |>.flatMap (flagChoices word)
      let ownOffer := !(flag.isSome && flagsStillRead)
      if flag.isNone && word.startsWith "-" && !word.contains '=' && flagsStillRead then
        let choices := if needed.isEmpty then
            ((sortFlags inherited ++ sortFlags own).filter (!given ·)).flatMap (flagChoices word)
          else needed
        let d := match choices with
          | [one] => if one.endsWith "=" then Directive.noSpace else .noFiles
          | _ => .noFiles
        if c.readsFlags then ⟨choices, d, none⟩
        else
          let (choices, d) := p.offerFor c finalArgs word choices d
          ⟨choices, d, none⟩
      else if flag.isSome then
        let (choices, d) := if ownOffer then p.offerFor c finalArgs word [] .plain else ([], .plain)
        ⟨choices, d, none⟩
      else
        let localGiven := (own.filter (fun f => !(p.persistent.any (·.name == f.name)))).any given
        let (commands, d) :=
          if finalArgs.isEmpty && !localGiven && !(Program.listing c).isEmpty then
            (commandChoices c word, Directive.noFiles)
          else ([], .plain)
        let (choices, d) := p.offerFor c finalArgs word (commands ++ needed) d
        ⟨choices, d, none⟩

/-- **The text of an answer** on the output stream: the choices, each its first line trimmed and,
without descriptions, cut at its tab; then the directive. -/
def Answer.output (a : Answer) (descriptions : Bool) : String :=
  let shown (s : String) : String :=
    let s := if descriptions then s else (s.splitOn "\t").headD ""
    ((s.splitOn "\n").headD "").trimAscii.toString
  String.join (a.choices.map (fun s => shown s ++ "\n")) ++ ":" ++ toString a.directive.bits ++ "\n"

/-- **The text of an answer** on the error stream: the complaint, then the directive in words. -/
def Answer.errors (a : Answer) : String :=
  (match a.problem with
    | some why => "[Error] " ++ why ++ "\n"
    | none => "") ++
  "Completion ended with directive: " ++ a.directive.text ++ "\n"

end QueryKit.Cli
