import SqlWorkload.Text.Blank
import SqlWorkload.Text.Pieces
import SqlWorkload.Text.Word
/-!
# Environment files

Files of lines `KEY=value`, each of which sets a key that is not set yet. Blanks around key and
value do not count, nor do empty lines and what follows a number sign. A value may be quoted; a
backslash stands before a mark, a dollar sign, a blank or another backslash, and before an n for a
line end. `$name` and `${name}` stand for what is set under that name when the line is read, but
not between single quotes. Reading stops at the first line of another form.

    what the environment sets, a file does not change                  (load_of_isSome)
    a name without an equals sign stands for the value of its key      (valueOf_of_not_mem)
-/

namespace SqlWorkload.EnvironmentFile

/-! ## Algorithm -/

/-- Where in a value the reader is. `quoted` tells whether it is between double quotes, and `name`
has what it has read of a name, last character first. -/
inductive Mode where
  | text (quoted : Bool)
  | single
  | escape (quoted : Bool)
  | name (quoted : Bool) (name : List Char)
  | braced (quoted : Bool) (name : List Char)
  | ending
  | comment
deriving DecidableEq, Repr

/-- The key that a name refers to: the name as far as its first equals sign. -/
def keyOf (name : List Char) : List Char := name.takeWhile (· != '=')

/-- What the environment holds under a name. Its entries read `KEY=value`, and the name stands for
what follows it and an equals sign in an entry: a name that goes on behind its key has to find the
front of the value there, and stands for the rest. -/
def valueOf (env : String → Option String) (name : List Char) : Option (List Char) := do
  let value ← env (String.ofList (keyOf name))
  let entry := keyOf name ++ '=' :: value.toList
  if (name ++ ['=']).isPrefixOf entry then some (entry.drop (name.length + 1)) else none

/-- What a name that was read stands for; nothing if it is not set. -/
def expand (env : String → Option String) (name : List Char) : List Char :=
  (valueOf env name.reverse).getD []

/-- One character of a value: the mode after it, and what it adds. -/
def step (env : String → Option String) : Mode → Char → Option (Mode × List Char)
  | .comment, _ => some (.comment, [])
  | .ending, c =>
    if c = ' ' ∨ c = '\t' then some (.ending, [])
    else if c = '#' then some (.comment, [])
    else none
  | .escape quoted, c =>
    if ['\\', '\'', '"', '$', ' '].contains c then some (.text quoted, [c])
    else if c = 'n' then some (.text quoted, ['\n'])
    else none
  | .single, c => if c = '\'' then some (.text false, []) else some (.single, [c])
  | .name quoted name, c =>
    if Text.isAlphanumeric c then some (.name quoted (c :: name), [])
    else if c = '\x7b' ∧ name = [] then some (.braced quoted [], [])
    else if c = '$' then some (.name quoted [], expand env name)
    else some (.text quoted, expand env name ++ [c])
  | .braced quoted name, c =>
    if c = '\x7d' then some (.text quoted, expand env name)
    else some (.braced quoted (c :: name), [])
  | .text quoted, c =>
    if c = '$' then some (.name quoted [], [])
    else if c = '"' then some (.text (!quoted), [])
    else if c = '\\' then some (.escape quoted, [])
    else if quoted then some (.text true, [c])
    else if c = '\'' then some (.single, [])
    else if c = ' ' ∨ c = '\t' then some (.ending, [])
    else some (.text false, [c])

/-- What the end of a value adds; a quote or brace that stays open is a fault. -/
def finish (env : String → Option String) : Mode → Option (List Char)
  | .text false | .escape false | .ending | .comment => some []
  | .name false name => some (expand env name)
  | _ => none

/-- The value from here on. -/
def readValue (env : String → Option String) : Mode → List Char → Option (List Char)
  | mode, [] => finish env mode
  | mode, c :: rest => do
    let (mode, added) ← step env mode c
    return added ++ (← readValue env mode rest)

def isKeyStart (c : Char) : Bool := c.isAlpha || c == '_'

def isKeyChar (c : Char) : Bool := c.isAlphanum || c == '_' || c == '.'

/-- The key at the front of a line, and the rest after the blanks that follow it. -/
def readKey (s : List Char) : Option (List Char × List Char) :=
  match s with
  | c :: _ =>
    if isKeyStart c then some (s.takeWhile isKeyChar, Text.trimStart (s.dropWhile isKeyChar))
    else none
  | [] => none

/-- The entry of a line; the word `export` may stand before the key. -/
def readEntry (env : String → Option String) (s : List Char) : Option (String × String) := do
  let (key, rest) ← readKey s
  let (key, rest) ←
    if key = "export".toList ∧ rest.head? ≠ some '=' then readKey rest else some (key, rest)
  match rest with
  | '=' :: rest =>
    let rest := Text.trimStart rest
    let value ← if rest.head? = some '#' then some [] else readValue env (.text false) rest
    return (String.ofList key, String.ofList value)
  | _ => none

/-- The environment with a value under a key, unless that is set already. -/
def provide (env : String → Option String) (key value : String) (name : String) : Option String :=
  (env name).or (if name = key then some value else none)

/-- The environment after the lines up to the first that is no entry. -/
def loadLines (env : String → Option String) : List (List Char) → String → Option String
  | [] => env
  | line :: rest =>
    match Text.trim line with
    | [] | '#' :: _ => loadLines env rest
    | s =>
      match readEntry env s with
      | some (key, value) => loadLines (provide env key value) rest
      | none => env

/-- The lines of a file up to the first that is not UTF-8. -/
def lines (file : ByteArray) : List (List Char) :=
  let texts := (Text.pieces (· == 10) file.toList).map fun line =>
    String.fromUTF8? ⟨line.toArray⟩
  (texts.takeWhile Option.isSome).filterMap (·.map String.toList)

/-- The environment with what a file adds to it. -/
def load (env : String → Option String) (file : ByteArray) : String → Option String :=
  loadLines env (lines file)

/-- The keys that a line refers to. -/
def references : List Char → List String
  | [] => []
  | '$' :: '\x7b' :: rest =>
    String.ofList (keyOf (rest.takeWhile (· != '\x7d'))) :: references rest
  | '$' :: rest => String.ofList (rest.takeWhile Text.isAlphanumeric) :: references rest
  | _ :: rest => references rest

/-! ## Lemmas -/

theorem keyOf_of_not_mem {name : List Char} (h : '=' ∉ name) : keyOf name = name := by
  induction name with
  | nil => rfl
  | cons c rest ih =>
    rw [List.mem_cons, not_or] at h
    have hc : (c != '=') = true := by simpa using Ne.symm h.1
    simpa [keyOf, hc] using ih h.2

theorem valueOf_of_not_mem (env : String → Option String) {name : List Char} (h : '=' ∉ name) :
    valueOf env name = (env (String.ofList name)).map String.toList := by
  rw [valueOf, keyOf_of_not_mem h]
  cases env (String.ofList name) with
  | none => rfl
  | some value =>
    have entry : name ++ '=' :: value.toList = (name ++ ['=']) ++ value.toList := by simp
    have front := List.isPrefixOf_iff_prefix.2 (List.prefix_append (name ++ ['=']) value.toList)
    have rest : List.drop (name.length + 1) (name ++ ['='] ++ value.toList) = value.toList :=
      List.drop_left' (by simp)
    show (if _ then some _ else none) = some value.toList
    rw [entry, if_pos front, rest]

theorem provide_of_isSome {env : String → Option String} {key value name : String}
    (h : (env name).isSome) : provide env key value name = env name := by
  obtain ⟨text, h⟩ := Option.isSome_iff_exists.1 h
  simp [provide, h]

theorem loadLines_of_isSome {env : String → Option String} {name : String}
    (lines : List (List Char)) (h : (env name).isSome) : loadLines env lines name = env name := by
  fun_induction loadLines env lines with
  | case1 => rfl
  | case2 env line rest _ ih => exact ih h
  | case3 env line rest _ _ ih => exact ih h
  | case4 env line rest _ _ key value _ ih =>
    rw [ih (by rwa [provide_of_isSome h]), provide_of_isSome h]
  | case5 => rfl

theorem load_of_isSome {env : String → Option String} {name : String} (file : ByteArray)
    (h : (env name).isSome) : load env file name = env name :=
  loadLines_of_isSome (lines file) h

end SqlWorkload.EnvironmentFile
