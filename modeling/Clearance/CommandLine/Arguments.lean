/-!
# Arguments — the words of the command line

Options come before the subcommand, the subcommand's own options after it.  The words are read from left to right, and
the first one that does not fit refuses the whole line; a request for help counts if nothing before it was refused.

Whether a value fits is not decided at once where it is a word of its own: it waits for the next option of its level or
for the end of the line.  An option that waits when the subcommand begins is decided after the subcommand's words.
-/
namespace Clearance
namespace CommandLine

structure Options where
  snapshot : Option String := none
  config : Option String := none
  artcc : Option String := none
  frdUrl : Option String := none
  verbose : Bool := false
  deriving DecidableEq, Repr

inductive Subcommand where
  | interpret (text : List String)
  | repl
  | direct (fid fix : String) (amend : Bool)
  | pending (fid : String)
  | reroute (fid : String) (index : Nat) (departure amend : Bool)
  | previousRoute (fid : String)
  deriving DecidableEq, Repr

/-- The names of the subcommands. -/
inductive Verb where
  | interpret
  | repl
  | direct
  | pending
  | reroute
  | previousRoute
  deriving DecidableEq, Repr

namespace Verb

def all : List Verb := [.interpret, .repl, .direct, .pending, .reroute, .previousRoute]

def name : Verb → String
  | .interpret => "interpret"
  | .repl => "repl"
  | .direct => "direct"
  | .pending => "pending"
  | .reroute => "reroute"
  | .previousRoute => "previous-route"

def ofName? (s : String) : Option Verb := all.find? (fun v => v.name == s)

/-- How many words the subcommand takes at most. -/
def capacity : Verb → Option Nat
  | .interpret => none
  | .repl => some 0
  | .direct => some 2
  | .pending => some 1
  | .reroute => some 2
  | .previousRoute => some 1

/-- The switches of the subcommand. -/
def switches : Verb → List String
  | .direct => ["--amend"]
  | .reroute => ["--departure", "--amend"]
  | _ => []

end Verb

/-- What help is asked for. -/
inductive Topic where
  | program
  | verb (v : Verb)
  /-- The help on help. -/
  | help
  deriving DecidableEq, Repr

namespace Topic

/-- The topic of the words behind `help`: there are no subcommands of subcommands. -/
def ofWords? : List String → Option Topic
  | [] => some .program
  | [s] => if s = "help" then some .help else (Verb.ofName? s).map .verb
  | _ => none

end Topic

/-- What the words ask for. -/
inductive Parsed where
  | run (options : Options) (subcommand : Subcommand)
  | help (topic : Topic)
  | version
  | refused
  deriving DecidableEq, Repr

/-! ## Subcommands -/

/-- The words and switches of a subcommand, or what takes their place. -/
inductive Collected where
  | arguments (words switches : List String)
  | help
  | refused

/-- An index: decimal digits of a number below 2^64, a plus sign before them allowed. -/
def index? (s : String) : Option Nat :=
  let ds := match s.toList with
    | '+' :: r => r
    | r => r
  if ds.isEmpty || !ds.all Char.isDigit then none
  else
    let n := ds.foldl (fun n c => n * 10 + (c.toNat - '0'.toNat)) 0
    if n < 18446744073709551616 then some n else none

/-- Whether the words are of the kinds that the subcommand wants. -/
def fits : Verb → List String → Bool
  | .reroute, [_, n] => (index? n).isSome
  | _, _ => true

/-- Whether a word looks like an option.  A single dash does not. -/
def isOption (s : String) : Bool := s.toList.head? = some '-' && s.toList.length ≠ 1

/-- Takes a word in, if there is room for it. -/
def takeWord (v : Verb) (words : List String) (s : String) : Option (List String) :=
  if v.capacity.all (words.length < ·) then some (words ++ [s]) else none

/-- The words behind `--`. -/
def collectWords (v : Verb) (switches words : List String) : List String → Collected
  | [] => .arguments words switches
  | s :: rest =>
    match takeWord v words s with
    | some words => collectWords v switches words rest
    | none => .refused

def collect (v : Verb) (switches words : List String) : List String → Collected
  | [] => .arguments words switches
  | s :: rest =>
    if s = "--" then collectWords v switches words rest
    else if isOption s then
      if !fits v words then .refused
      else if s = "--help" || s.toList.take 2 = ['-', 'h'] then .help
      else if v.switches.contains s && !switches.contains s then collect v (s :: switches) words rest
      else .refused
    else
      match takeWord v words s with
      | some words => collect v switches words rest
      | none => .refused

def subcommand? (v : Verb) (words switches : List String) : Option Subcommand :=
  let amend := switches.contains "--amend"
  match v, words with
  | .interpret, ws => some (.interpret ws)
  | .repl, [] => some .repl
  | .direct, [fid, fix] => some (.direct fid fix amend)
  | .pending, [fid] => some (.pending fid)
  | .reroute, [fid, n] => (index? n).map fun i => .reroute fid i (switches.contains "--departure") amend
  | .previousRoute, [fid] => some (.previousRoute fid)
  | _, _ => none

/-! ## Options -/

/-- An option that takes a value. -/
inductive Valued where
  | snapshot
  | config
  | artcc
  | frdUrl
  deriving DecidableEq, Repr

namespace Valued

def ofLong? : String → Option Valued
  | "--snapshot" => some .snapshot
  | "--config" => some .config
  | "--artcc" => some .artcc
  | "--frd-url" => some .frdUrl
  | _ => none

def ofShort? : Char → Option Valued
  | 's' => some .snapshot
  | 'c' => some .config
  | _ => none

/-- Sets the option; it may be set once.  A path has at least one character. -/
def set? (o : Options) (v : Valued) (value : String) : Option Options :=
  match v with
  | .snapshot => if o.snapshot.isSome || value.isEmpty then none else some { o with snapshot := some value }
  | .config => if o.config.isSome || value.isEmpty then none else some { o with config := some value }
  | .artcc => if o.artcc.isSome then none else some { o with artcc := some value }
  | .frdUrl => if o.frdUrl.isSome then none else some { o with frdUrl := some value }

end Valued

/-- What a word of short options comes to. -/
inductive Shorts where
  | options (o : Options)
  /-- The last letter takes the next word as its value. -/
  | wants (o : Options) (v : Valued)
  | help
  | version
  | refused

/-- Reads short options that stand together.  What follows the letter of an option with a value is the value. -/
def readShorts (o : Options) : List Char → Shorts
  | [] => .options o
  | 'h' :: _ => .help
  | 'V' :: _ => .version
  | 'v' :: rest => if o.verbose then .refused else readShorts { o with verbose := true } rest
  | c :: rest =>
    match Valued.ofShort? c, rest with
    | none, _ => .refused
    | some v, [] => .wants o v
    | some v, '=' :: value => (v.set? o (String.ofList value)).elim .refused .options
    | some v, value => (v.set? o (String.ofList value)).elim .refused .options

/-- A long option and the value behind its `=`. -/
def splitLong (s : String) : String × Option String :=
  let name := s.toList.takeWhile (· ≠ '=')
  match s.toList.drop name.length with
  | [] => (String.ofList name, none)
  | _ :: value => (String.ofList name, some (String.ofList value))

/-- Options, and one that waits to be set. -/
structure Reading where
  options : Options := {}
  waiting : Option (Valued × String) := none

/-- Sets the option that waits. -/
def Reading.settle (r : Reading) : Option Options :=
  match r.waiting with
  | none => some r.options
  | some (v, value) => v.set? r.options value

def parseSubcommand (r : Reading) (v : Verb) (rest : List String) : Parsed :=
  match collect v [] [] rest with
  | .refused => .refused
  | .help => .help (.verb v)
  | .arguments words switches =>
    match subcommand? v words switches, r.settle with
    | some c, some o => .run o c
    | _, _ => .refused

def parseFrom (r : Reading) : List String → Parsed
  | [] => .refused
  | s :: rest =>
    if s = "--" then .refused
    else if isOption s then
      match r.settle with
      | none => .refused
      | some o =>
        if s.toList.take 2 = ['-', '-'] then
          match splitLong s with
          | ("--help", none) => .help .program
          | ("--version", none) => .version
          | ("--verbose", none) => if o.verbose then .refused else parseFrom ⟨{ o with verbose := true }, none⟩ rest
          | (name, some value) =>
            match (Valued.ofLong? name).bind fun v => v.set? o value with
            | some o => parseFrom ⟨o, none⟩ rest
            | none => .refused
          | (name, none) =>
            match Valued.ofLong? name, rest with
            | some v, value :: rest => if isOption value then .refused else parseFrom ⟨o, some (v, value)⟩ rest
            | _, _ => .refused
        else
          match readShorts o (s.toList.drop 1) with
          | .options o => parseFrom ⟨o, none⟩ rest
          | .wants o v =>
            match rest with
            | value :: rest => if isOption value then .refused else parseFrom ⟨o, some (v, value)⟩ rest
            | [] => .refused
          | .help => .help .program
          | .version => .version
          | .refused => .refused
    else
      match Verb.ofName? s with
      | some v => parseSubcommand r v rest
      | none => if s = "help" then (Topic.ofWords? rest).elim .refused .help else .refused

/-- What the words of a command line ask for. -/
def parse (words : List String) : Parsed := parseFrom {} words

end CommandLine
end Clearance
