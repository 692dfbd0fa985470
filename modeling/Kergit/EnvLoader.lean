import Mathlib.Data.List.DropRight
import Kergit.Lib.Maps

/-!
`EnvLoader`: a file of `key=value` lines over the process's environment.  Texts are lists of
characters.
-/

namespace Kergit

open Lib

structure EnvLoader where
  vars : Map (List Char) (List Char) := ∅
  loaded : Bool := false

namespace EnvLoader

/-- The lines `std::getline` reads. -/
def lines : List Char → List (List Char)
  | [] => []
  | c :: rest =>
    if c = '\n' then [] :: lines rest
    else match lines rest with
      | [] => [[c]]
      | first :: others => (c :: first) :: others

def isBlank (c : Char) : Bool := c = ' ' || c = '\t'

/-- Both `erase` calls; where all is blank, `npos` makes them erase all. -/
def trim (text : List Char) : List Char := (text.dropWhile isBlank).rdropWhile isBlank

/-- A value within a pair of equal quotes, without them. -/
def unquote (value : List Char) : List Char :=
  if 2 ≤ value.length ∧ (value.head? = some '"' ∧ value.getLast? = some '"' ∨
      value.head? = some '\'' ∧ value.getLast? = some '\'') then value.tail.dropLast
  else value

variable (vars : Map (List Char) (List Char))

def loadLine (line : List Char) : Map (List Char) (List Char) :=
  if line = [] ∨ line.head? = some '#' then vars
  else
    match line.dropWhile (· ≠ '=') with
    | [] => vars
    | _ :: value =>
      let key := trim (line.takeWhile (· ≠ '='))
      if key = [] then vars else vars.insert key (unquote (trim value))

-- `EnvLoader::load_env_file`; says whether it succeeds.
def loadEnvFile (env : EnvLoader) (file : Option (List Char)) : Bool × EnvLoader :=
  if env.loaded then (true, env)
  else
    match file with
    | none => (false, env)
    | some text => (true, { vars := (lines text).foldl loadLine env.vars, loaded := true })

/-- `system` is `std::getenv`. -/
def lookupEnv (env : EnvLoader) (system : List Char → Option (List Char)) (key : List Char) :
    Option (List Char) := (env.vars.lookup key).or (system key)

def getEnv (env : EnvLoader) (system : List Char → Option (List Char)) (key default : List Char) :
    List Char := (env.lookupEnv system key).getD default

/-! ## Writing and loading -/

/-- A pair whose key a line can hold, and its value between quotes. -/
structure Pair where
  key : List Char
  value : List Char
  named : key ≠ []
  plain : '=' ∉ key ∧ '\n' ∉ key
  uncommented : key.head? ≠ some '#'
  trimmed : ∀ c, key.head? = some c ∨ key.getLast? = some c → isBlank c = false
  single : '\n' ∉ value

/-- The line of a pair. -/
def Pair.line (pair : Pair) : List Char := pair.key ++ '=' :: '"' :: pair.value ++ ['"']

theorem lines_line (pair : Pair) (rest : List Char) :
    lines (pair.line ++ '\n' :: rest) = pair.line :: lines rest := by
  have single : '\n' ∉ pair.line := by simp [Pair.line, pair.plain.2, pair.single]
  generalize pair.line = line at single
  induction line with
  | nil => rfl
  | cons c line ih =>
    rw [List.mem_cons, not_or] at single
    rw [List.cons_append, lines, if_neg (Ne.symm single.1), ih single.2]

theorem trim_eq_self (ends : ∀ c, text.head? = some c ∨ text.getLast? = some c → isBlank c = false) :
    trim text = text := by
  have left : text.dropWhile isBlank = text := by
    cases text with
    | nil => rfl
    | cons c rest => exact List.dropWhile_cons_of_neg (by simp [ends c (.inl rfl)])
  rw [trim, left, List.rdropWhile_eq_self_iff]
  intro some
  rw [ends _ (.inr (List.getLast?_eq_some_getLast some))]
  exact Bool.false_ne_true

/-- **A pair's line sets its key to its value.** -/
theorem loadLine_line (pair : Pair) :
    loadLine vars pair.line = vars.insert pair.key pair.value := by
  have before : ∀ c ∈ pair.key, decide (c ≠ '=') = true := by
    intro c listed
    exact decide_eq_true fun same => pair.plain.1 (same ▸ listed)
  have last : ('"' :: pair.value ++ ['"']).getLast? = some '"' := List.getLast?_concat
  have quoted : trim ('"' :: pair.value ++ ['"']) = '"' :: pair.value ++ ['"'] := by
    apply trim_eq_self
    rintro c (⟨⟨⟩⟩ | ends)
    · rfl
    · cases last.symm.trans ends
      rfl
  have value : unquote ('"' :: pair.value ++ ['"']) = pair.value := by
    rw [unquote, if_pos ⟨by simp, .inl ⟨rfl, last⟩⟩]
    exact List.dropLast_concat
  have begins : ¬ (pair.line = [] ∨ pair.line.head? = some '#') := by
    rw [Pair.line, List.append_assoc, List.head?_append_of_ne_nil _ pair.named]
    simp [pair.uncommented]
  rw [loadLine, if_neg begins, Pair.line, List.append_assoc, List.cons_append,
    List.dropWhile_append_of_pos before, List.takeWhile_append_of_pos before,
    List.dropWhile_cons_of_neg (by simp), List.takeWhile_cons_of_neg (by simp), List.append_nil]
  simp only [trim_eq_self pair.trimmed, if_neg pair.named, quoted, value]

theorem lines_written (pairs : List Pair) :
    lines (pairs.flatMap fun pair => pair.line ++ ['\n']) = pairs.map Pair.line := by
  induction pairs with
  | nil => rfl
  | cons pair rest ih =>
    rw [List.flatMap_cons, List.append_assoc, List.map_cons, ← ih]
    exact lines_line pair _

/-- The last of the writes to a key stands. -/
theorem lookup_written (pairs : List Pair) (key : List Char) :
    (pairs.foldl (fun vars pair => vars.insert pair.key pair.value) vars).lookup key =
      ((pairs.reverse.find? fun pair => decide (pair.key = key)).map Pair.value).or
        (vars.lookup key) := by
  induction pairs using List.reverseRecOn with
  | nil => rfl
  | append_singleton pairs pair ih =>
    rw [List.foldl_concat, List.reverse_concat, List.find?_cons, Map.lookup_insert_if, ih]
    by_cases same : key = pair.key
    · simp [same]
    · simp [same, Ne.symm same]

/-- **Env files round trip.**  Loading a file with a line for each pair gives every key the value of
its last pair, and leaves every other key as it was. -/
theorem env_file_round_trip (vars : Map (List Char) (List Char)) (pairs : List Pair)
    (system : List Char → Option (List Char)) (key default : List Char) :
    let env : EnvLoader := { vars }
    let written := pairs.flatMap fun pair => pair.line ++ ['\n']
    let loaded := (env.loadEnvFile (some written)).2
    let last := (pairs.reverse.find? fun pair => decide (pair.key = key)).map Pair.value
    loaded.vars.lookup key = last.or (env.vars.lookup key) ∧
      loaded.getEnv system key default = last.getD (env.getEnv system key default) := by
  intro env written loaded last
  have found : loaded.vars.lookup key = last.or (env.vars.lookup key) := by
    simp only [loaded, loadEnvFile, env, written, lines_written, List.foldl_map, loadLine_line]
    exact lookup_written vars pairs key
  refine ⟨found, ?_⟩
  rw [getEnv, getEnv, lookupEnv, lookupEnv, found, Option.or_assoc]
  cases last <;> rfl

namespace Overridden

/-- A line of the key `TOKEN`. -/
def token (value : List Char) (single : '\n' ∉ value) : Pair where
  key := "TOKEN".toList
  value := value
  named := by decide
  plain := by decide
  uncommented := by decide
  trimmed := by
    rintro c (⟨⟨⟩⟩ | ⟨⟨⟩⟩) <;> rfl
  single := single

def pairs : List Pair := [
  token "'old' = #1".toList (by decide),
  token " \"new\"=# ".toList (by decide)]

/-- Of two lines for one key the second stands, quotes, blanks, hash and equals sign included. -/
theorem env_file_round_trip_token :
    let written := pairs.flatMap fun pair => pair.line ++ ['\n']
    let loaded := (({} : EnvLoader).loadEnvFile (some written)).2
    written = "TOKEN=\"'old' = #1\"\nTOKEN=\" \"new\"=# \"\n".toList ∧
      loaded.getEnv (fun _ => none) "TOKEN".toList [] = " \"new\"=# ".toList ∧
      loaded.vars.lookup "OTHER".toList = none :=
  ⟨by decide, (env_file_round_trip ∅ pairs (fun _ => none) "TOKEN".toList []).2,
    (env_file_round_trip ∅ pairs (fun _ => none) "OTHER".toList []).1⟩

end Overridden

end EnvLoader

end Kergit
