import SchemaMigration.Settings.Source
import SchemaMigration.Text.Alphanumeric

/-!
# Environment files

The `.env` file of `driftwood-migrate` (appendix H of the driftwood specification): a file of
assignments, one on a line, that add to the environment what is not set there already. A value may
be quoted: between single quotes nothing is special, elsewhere a backslash escapes and a dollar sign
puts in the value of a variable. Reading stops at the first line that is wrong, and keeps what came
before it. A value with a zero character is one that no environment can hold, and then the file
gives no environment at all.

> `extend?_get?`: a variable that is set keeps its value.
-/

namespace SchemaMigration.CommandLine

open Text Settings

/-! ## Values -/

/-- Is the name of a variable being read, and is it in braces? -/
inductive Substitution
  | none
  | bare
  | braced
deriving DecidableEq, Repr

/-- A value that has been read in part. -/
structure ValueState where
  /-- Inside single quotes. -/
  single : Bool := false
  /-- Inside double quotes. -/
  double : Bool := false
  /-- After a backslash. -/
  escaped : Bool := false
  /-- After a blank that ends the value: only a comment may follow. -/
  ended : Bool := false
  substitution : Substitution := .none
  /-- The name of a variable, as far as it was read. -/
  name : List Char := []
  /-- The value, as far as it was read. -/
  output : List Char := []
deriving DecidableEq, Repr

namespace ValueState

/-- Adds a character to the value. -/
def push (st : ValueState) (c : Char) : ValueState := { st with output := st.output ++ [c] }

/-- Puts in the value of the variable that was named. -/
def substitute (value : String → String) (st : ValueState) : ValueState :=
  { st with
    substitution := .none
    name := []
    output := st.output ++ (value (String.ofList st.name)).toList }

/-- Reads the character after a backslash. -/
def escape (st : ValueState) (c : Char) : Option ValueState :=
  let st := { st with escaped := false }
  if c = 'n' then some (st.push '\n')
  else if c = '\\' ∨ c = '\'' ∨ c = '"' ∨ c = '$' ∨ c = ' ' then some (st.push c)
  else none

/-- Reads a character while the name of a variable is being read. -/
def nameStep (value : String → String) (st : ValueState) (c : Char) : ValueState :=
  if isAlphanumeric c then { st with name := st.name ++ [c] }
  else if st.substitution = .braced then
    if c = '\x7d' then st.substitute value else { st with name := st.name ++ [c] }
  else if c = '\x7b' ∧ st.name = [] then { st with substitution := .braced }
  else
    let st := st.substitute value
    if c = '$' then { st with substitution := .bare } else st.push c

/-- Reads a character where it can be special. -/
def plainStep (st : ValueState) (c : Char) : ValueState :=
  if c = '$' then { st with substitution := .bare }
  else if c = '\\' then { st with escaped := true }
  else if st.double then if c = '"' then { st with double := false } else st.push c
  else if c = '\'' then { st with single := true }
  else if c = '"' then { st with double := true }
  else if c = ' ' ∨ c = '\t' then { st with ended := true }
  else st.push c

/-- Reads one character of a value. -/
def step (value : String → String) (st : ValueState) (c : Char) : Option ValueState :=
  if st.escaped then st.escape c
  else if st.single then some (if c = '\'' then { st with single := false } else st.push c)
  else if st.substitution ≠ .none then some (st.nameStep value c)
  else some (st.plainStep c)

/-- The value, if it may end here. -/
def finish (value : String → String) (st : ValueState) : Option String :=
  if st.single || st.double || st.substitution = .braced then none
  else some (String.ofList (st.substitute value).output)

end ValueState

/-- Reads a value to the end of the line, or to the comment that follows it. -/
def valueFrom (value : String → String) (st : ValueState) : List Char → Option String
  | [] => st.finish value
  | c :: r =>
    if st.ended then
      if c = ' ' ∨ c = '\t' then valueFrom value st r
      else if c = '#' then st.finish value
      else none
    else
      match st.step value c with
      | some st => valueFrom value st r
      | none => none

/-! ## Lines -/

/-- The name of a variable, and the text after the blanks that follow it. -/
def variableName? (s : List Char) : Option (String × List Char) :=
  match s with
  | [] => none
  | c :: _ =>
    if c.isAlpha || c == '_' then
      let name := s.takeWhile fun d => d.isAlphanum || d == '_' || d == '.'
      some (String.ofList name, (s.drop name.length).dropWhile isBlank)
    else none

/-- A name, and the text after its equals sign. -/
def nameAndEquals? (s : List Char) : Option (String × List Char) :=
  match variableName? s with
  | some (name, '=' :: r) => some (name, r.dropWhile isBlank)
  | _ => none

/-- A name, and the text after its equals sign; a word that exports the variable may come first. -/
def assigned? (s : List Char) : Option (String × List Char) :=
  match nameAndEquals? s with
  | some p => some p
  | none =>
    match variableName? s with
    | some ("export", r) => nameAndEquals? r
    | _ => none

/-- What a line holds. -/
inductive EnvLine
  | nothing
  | assignment (name value : String)
  | wrong
deriving DecidableEq, Repr

/-- Is there nothing on the line but perhaps a comment? -/
def isRemark (s : List Char) : Bool := s.isEmpty || s.head? == some '#'

/-- Reads a line, given the values of the variables. -/
def EnvLine.ofChars (value : String → String) (line : List Char) : EnvLine :=
  let s := (trimEnd line).dropWhile isBlank
  if isRemark s then .nothing
  else
    match assigned? s with
    | none => .wrong
    | some (name, r) =>
      if isRemark r then .assignment name ""
      else
        match valueFrom value {} r with
        | some v => .assignment name v
        | none => .wrong

/-! ## Files -/

/-- The value of a variable; empty if it is not set. -/
def valueIn (env : Environment) (name : String) : String := (Entries.get? env name).getD ""

/-- Sets a variable unless it is set already. Nothing is the answer for a value that an environment
cannot hold, which is one with a zero character. -/
def setIfMissing? (env : Environment) (name value : String) : Option Environment :=
  match Entries.get? env name with
  | some _ => some env
  | none => if value.toList.contains '\x00' then none else some (env ++ [(name, value)])

/-- Cuts bytes into lines. -/
def byteLines : List UInt8 → List (List UInt8)
  | [] => [[]]
  | b :: r =>
    if b = 10 then [] :: byteLines r
    else
      match byteLines r with
      | [] => [[b]]
      | l :: ls => (b :: l) :: ls

/-- Adds the assignments of lines to the environment, up to the first line that is wrong. -/
def extendLines? (env : Environment) : List (List UInt8) → Option Environment
  | [] => some env
  | line :: rest =>
    match String.fromUTF8? ⟨line.toArray⟩ with
    | none => some env
    | some text =>
      match EnvLine.ofChars (valueIn env) text.toList with
      | .wrong => some env
      | .nothing => extendLines? env rest
      | .assignment name value =>
        match setIfMissing? env name value with
        | some env => extendLines? env rest
        | none => none

/-- The environment with the assignments of a file added to it, if it can hold them. -/
def extend? (env : Environment) (file : ByteArray) : Option Environment :=
  extendLines? env (byteLines file.toList)

theorem setIfMissing?_get? {env env' : Environment} {name value other v : String}
    (hs : setIfMissing? env name value = some env') (h : Entries.get? env other = some v) :
    Entries.get? env' other = some v := by
  rw [setIfMissing?] at hs
  split at hs
  · cases hs; exact h
  · split at hs
    · cases hs
    · cases hs
      rw [Entries.get?] at h ⊢
      rw [List.find?_append]
      rcases hf : env.find? (fun e => e.1 == other) with _ | e
      · rw [hf] at h; cases h
      · rw [hf] at h
        rw [hf, Option.some_or]
        exact h

theorem extendLines?_get? {lines : List (List UInt8)} {env env' : Environment} {other v : String}
    (hs : extendLines? env lines = some env') (h : Entries.get? env other = some v) :
    Entries.get? env' other = some v := by
  induction lines generalizing env with
  | nil => cases hs; exact h
  | cons line rest ih =>
    rw [extendLines?] at hs
    split at hs
    · cases hs; exact h
    · split at hs
      · cases hs; exact h
      · exact ih hs h
      · split at hs
        · rename_i hm
          exact ih hs (setIfMissing?_get? hm h)
        · cases hs

/-- A variable that is set keeps its value. -/
theorem extend?_get? {env env' : Environment} {file : ByteArray} {other v : String}
    (hs : extend? env file = some env') (h : Entries.get? env other = some v) :
    Entries.get? env' other = some v :=
  extendLines?_get? hs h

end SchemaMigration.CommandLine
