import SchemaMigration.Text.Blank
import SchemaMigration.Text.Join

/-!
# Arguments

The command line of `driftwood-migrate` (appendix H of the driftwood specification): what the
arguments of a run ask for. The options of the program stand before the name of the action, those of
the action after it, and none is given twice. The value of an option follows it, or stands after an
equals sign; a value that follows does not look like an option. The arguments are read from the
left, and the first one that is wrong, or that asks for a text about the program, decides.
-/

namespace SchemaMigration.CommandLine

open Text

/-- What is to be done. -/
inductive Action
  | init
  | version
  | status
  | up (target : Option String) (dryRun : Bool)
  | check
  | new (name : String)
deriving DecidableEq, Repr

/-- The options of the program. -/
structure Options where
  config : Option String := none
  migrationsDir : Option String := none
  verbose : Bool := false
  quiet : Bool := false
deriving DecidableEq, Repr

/-- What a run is asked for: its options and its action. -/
structure Invocation where
  options : Options
  action : Action
deriving DecidableEq, Repr

/-- Why arguments do not lead to an action. -/
inductive Stop
  /-- They are wrong. -/
  | usage
  /-- They ask how the program is used. -/
  | help
  /-- They ask for the version of the program. -/
  | programVersion
deriving DecidableEq, Repr

/-! ## One argument -/

/-- One argument, by its look. -/
inductive Argument
  /-- Two hyphens: only plain arguments follow. -/
  | divider
  /-- A name after two hyphens, perhaps with a value after an equals sign. -/
  | long (name : String) (value : Option String)
  /-- Letters after one hyphen. -/
  | short (letters : List Char)
  | plain (text : String)
deriving DecidableEq, Repr

/-- What stands after two hyphens, split at its first equals sign. -/
def longArgument (s : List Char) : Argument :=
  let name := s.takeWhile (· != '=')
  match s.drop name.length with
  | [] => .long (String.ofList name) none
  | _ :: value => .long (String.ofList name) (some (String.ofList value))

/-- The look of an argument. One hyphen alone is plain. -/
def Argument.ofString (s : String) : Argument :=
  match s.toList with
  | ['-', '-'] => .divider
  | '-' :: '-' :: rest => longArgument rest
  | ['-'] => .plain s
  | '-' :: letters => .short letters
  | _ => .plain s

/-- May the argument be the value of the option before it? -/
def isValue (s : String) : Bool :=
  match Argument.ofString s with
  | .plain _ => true
  | _ => false

/-- The value of an option: the attached one, or the next argument; and the arguments after it. -/
def valueOf (attached : Option String) (rest : List String) : Except Stop (String × List String) :=
  match attached, rest with
  | some v, rest => .ok (v, rest)
  | none, v :: rest => if isValue v then .ok (v, rest) else .error .usage
  | none, [] => .error .usage

theorem valueOf_length {attached : Option String} {rest : List String} {v : String}
    {rest' : List String} (h : valueOf attached rest = .ok (v, rest')) :
    rest'.length ≤ rest.length := by
  rw [valueOf.eq_def] at h
  split at h
  · cases h
    exact Nat.le_refl _
  · split at h
    · cases h
      exact Nat.le_succ _
    · cases h
  · cases h

/-- Sets a flag that was not given before. -/
def flagOnce (given : Bool) (attached : Option String) : Except Stop Unit :=
  if given || attached.isSome then .error .usage else .ok ()

/-! ## Actions -/

/-- An action without options. -/
def plainAction (a : Action) : List String → Except Stop Action
  | [] => .ok a
  | s :: rest =>
    match Argument.ofString s with
    | .divider => if rest.isEmpty then .ok a else .error .usage
    | .long "help" none => .error .help
    | .short ('h' :: _) => .error .help
    | _ => .error .usage

/-- The action that applies migrations, with what was read of its options so far. -/
def upAction (target : Option String) (dryRun : Bool) (args : List String) : Except Stop Action :=
  match args with
  | [] => .ok (.up target dryRun)
  | s :: rest =>
    match Argument.ofString s with
    | .divider => if rest.isEmpty then .ok (.up target dryRun) else .error .usage
    | .long "help" none => .error .help
    | .short ('h' :: _) => .error .help
    | .long "dry-run" attached =>
      match flagOnce dryRun attached with
      | .ok () => upAction target true rest
      | .error e => .error e
    | .long "target" attached =>
      match _h : valueOf attached rest with
      | .ok (v, rest') => if target.isSome then .error .usage else upAction (some v) dryRun rest'
      | .error e => .error e
    | _ => .error .usage
termination_by args.length
decreasing_by
  · simp
  · have := valueOf_length _h
    simp only [List.length_cons]
    omega

/-- The action that adds a migration, with the name if it was read. -/
def newAction (name : Option String) : List String → Except Stop Action
  | [] =>
    match name with
    | some n => .ok (.new n)
    | none => .error .usage
  | s :: rest =>
    match Argument.ofString s with
    | .divider =>
      match name, rest with
      | some n, [] => .ok (.new n)
      | none, [n] => .ok (.new n)
      | _, _ => .error .usage
    | .long "help" none => .error .help
    | .short ('h' :: _) => .error .help
    | .plain n => if name.isSome then .error .usage else newAction (some n) rest
    | _ => .error .usage

/-- The names of the actions. -/
def actionNames : List String := ["init", "version", "status", "up", "check", "new", "help"]

/-- The action of a name, with the arguments after it. -/
def actionOf (name : String) (rest : List String) : Except Stop Action :=
  match name with
  | "init" => plainAction .init rest
  | "version" => plainAction .version rest
  | "status" => plainAction .status rest
  | "check" => plainAction .check rest
  | "up" => upAction none false rest
  | "new" => newAction none rest
  | "help" =>
    match rest with
    | [] => .error .help
    | [s] => if s ∈ actionNames then .error .help else .error .usage
    | _ => .error .usage
  | _ => .error .usage

/-! ## The whole line -/

/-- Reads the letters after one hyphen. -/
def shortOptions (o : Options) : List Char → Except Stop Options
  | [] => .ok o
  | 'v' :: r => if o.verbose then .error .usage else shortOptions { o with verbose := true } r
  | 'q' :: r => if o.quiet then .error .usage else shortOptions { o with quiet := true } r
  | 'V' :: _ => .error .programVersion
  | 'h' :: _ => .error .help
  | _ => .error .usage

/-- Sets a path that was not given before and is not empty. -/
def pathOnce (given : Option String) (v : String) : Except Stop (Option String) :=
  if given.isSome || v.isEmpty then .error .usage else .ok (some v)

/-- Reads arguments, after those that gave the options `o`. -/
def parseFrom (o : Options) (args : List String) : Except Stop Invocation :=
  match args with
  | [] => .error .usage
  | s :: rest =>
    match Argument.ofString s with
    | .divider => .error .usage
    | .plain name => (actionOf name rest).map fun a => ⟨o, a⟩
    | .short letters =>
      match shortOptions o letters with
      | .ok o => parseFrom o rest
      | .error e => .error e
    | .long "verbose" attached =>
      match flagOnce o.verbose attached with
      | .ok () => parseFrom { o with verbose := true } rest
      | .error e => .error e
    | .long "quiet" attached =>
      match flagOnce o.quiet attached with
      | .ok () => parseFrom { o with quiet := true } rest
      | .error e => .error e
    | .long "version" none => .error .programVersion
    | .long "help" none => .error .help
    | .long "config" attached =>
      match _h : valueOf attached rest with
      | .ok (v, rest') =>
        match pathOnce o.config v with
        | .ok p => parseFrom { o with config := p } rest'
        | .error e => .error e
      | .error e => .error e
    | .long "migrations-dir" attached =>
      match _h : valueOf attached rest with
      | .ok (v, rest') =>
        match pathOnce o.migrationsDir v with
        | .ok p => parseFrom { o with migrationsDir := p } rest'
        | .error e => .error e
      | .error e => .error e
    | _ => .error .usage
termination_by args.length
decreasing_by
  · simp
  · simp
  · simp
  · have := valueOf_length _h
    simp only [List.length_cons]
    omega
  · have := valueOf_length _h
    simp only [List.length_cons]
    omega

/-- What arguments ask for. -/
def parse (args : List String) : Except Stop Invocation := parseFrom {} args

end SchemaMigration.CommandLine
