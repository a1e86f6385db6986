import TimeWindow.Json.Value
import TimeWindow.Text.Numeral

/-!
The tokens of a document. Blanks between tokens are the four of the format; a token takes at least
one character, so cutting a text into tokens ends (`next_shorter`).
-/

namespace TimeWindow.Json

inductive Token
  | openObject
  | closeObject
  | openArray
  | closeArray
  | colon
  | comma
  | scalar (v : Value)
deriving Repr

namespace Token

def isSpace (c : Char) : Bool :=
  c = ' ' || c = '\t' || c = '\n' || c = '\r'

def unescape? : Char → Option Nat
  | '"' => some 0x22
  | '\\' => some 0x5C
  | '/' => some 0x2F
  | 'b' => some 0x08
  | 'f' => some 0x0C
  | 'n' => some 0x0A
  | 'r' => some 0x0D
  | 't' => some 0x09
  | _ => none

def hexDigit? (c : Char) : Option Nat :=
  if '0' ≤ c ∧ c ≤ '9' then some (c.toNat - 0x30)
  else if 'a' ≤ c ∧ c ≤ 'f' then some (c.toNat - 0x57)
  else if 'A' ≤ c ∧ c ≤ 'F' then some (c.toNat - 0x37)
  else none

def hexValue? (digits : List Char) : Option Nat :=
  digits.foldlM (fun n c => (hexDigit? c).map (16 * n + ·)) 0

def readUnits (units : List Nat) : List Char → Option (List Nat × List Char)
  | [] => none
  | '"' :: rest => some (units.reverse, rest)
  | '\\' :: 'u' :: a :: b :: c :: d :: rest =>
    (hexValue? [a, b, c, d]).bind fun n => readUnits (n :: units) rest
  | '\\' :: c :: rest => (unescape? c).bind fun n => readUnits (n :: units) rest
  | c :: rest => if c.toNat < 0x20 then none else readUnits (c.toNat :: units) rest

def isHighHalf (n : Nat) : Bool := 0xD800 ≤ n && n ≤ 0xDBFF

def isLowHalf (n : Nat) : Bool := 0xDC00 ≤ n && n ≤ 0xDFFF

/-- The code points of a run of units: two halves that meet make one. -/
def joinUnits : List Nat → List Nat
  | [] => []
  | [n] => [n]
  | high :: low :: rest =>
    if isHighHalf high && isLowHalf low then
      (0x10000 + (high - 0xD800) * 0x400 + (low - 0xDC00)) :: joinUnits rest
    else high :: joinUnits (low :: rest)

def takeDigits (cs : List Char) : List Char × List Char :=
  (cs.takeWhile Char.isDigit, cs.dropWhile Char.isDigit)

/-- The digits before the point: a single zero, or digits that do not start with one. -/
def wholeDigits : List Char → Option (List Char × List Char)
  | '0' :: rest => some (['0'], rest)
  | cs => if (takeDigits cs).1 = [] then none else some (takeDigits cs)

def fractionDigits : List Char → List Char × List Char
  | '.' :: rest => if (takeDigits rest).1 = [] then ([], '.' :: rest) else takeDigits rest
  | cs => ([], cs)

def powerOfTen : List Char → Option Int × List Char
  | [] => (none, [])
  | e :: rest =>
    let sign := Text.takeSign rest
    let digits := takeDigits sign.2
    if (e = 'e' ∨ e = 'E') ∧ digits.1 ≠ [] then
      let n : Int := Text.valueOfDigits digits.1
      (some (if sign.1 then -n else n), digits.2)
    else (none, e :: rest)

/-- A number without its sign. One with neither fraction nor power is whole, and refused if it has
more digits than a numeral may have. -/
def readMagnitude (negative : Bool) (cs : List Char) : Option (Value × List Char) :=
  (wholeDigits cs).bind fun whole =>
    let fraction := fractionDigits whole.2
    let power := powerOfTen fraction.2
    if fraction.1.isEmpty && power.1.isNone then
      if Text.maxDigits < whole.1.length then none
      else
        let n : Int := Text.valueOfDigits whole.1
        some (.int (if negative then -n else n), power.2)
    else
      let digits := Text.valueOfDigits (whole.1 ++ fraction.1)
      some (.real (.ofDecimal negative ⟨digits, power.1.getD 0 - fraction.1.length⟩), power.2)

def next : List Char → Option (Token × List Char)
  | [] => none
  | '{' :: rest => some (.openObject, rest)
  | '}' :: rest => some (.closeObject, rest)
  | '[' :: rest => some (.openArray, rest)
  | ']' :: rest => some (.closeArray, rest)
  | ':' :: rest => some (.colon, rest)
  | ',' :: rest => some (.comma, rest)
  | '"' :: rest =>
    (readUnits [] rest).map fun (units, rest) =>
      (.scalar (.string (.ofPoints (joinUnits units))), rest)
  | 'n' :: 'u' :: 'l' :: 'l' :: rest => some (.scalar .null, rest)
  | 't' :: 'r' :: 'u' :: 'e' :: rest => some (.scalar (.bool true), rest)
  | 'f' :: 'a' :: 'l' :: 's' :: 'e' :: rest => some (.scalar (.bool false), rest)
  | 'N' :: 'a' :: 'N' :: rest => some (.scalar (.real .notANumber), rest)
  | 'I' :: 'n' :: 'f' :: 'i' :: 'n' :: 'i' :: 't' :: 'y' :: rest =>
    some (.scalar (.real (.infinite false)), rest)
  | '-' :: 'I' :: 'n' :: 'f' :: 'i' :: 'n' :: 'i' :: 't' :: 'y' :: rest =>
    some (.scalar (.real (.infinite true)), rest)
  | '-' :: rest => (readMagnitude true rest).map fun (v, rest) => (.scalar v, rest)
  | c :: rest => (readMagnitude false (c :: rest)).map fun (v, rest) => (.scalar v, rest)

theorem readUnits_shorter {units : List Nat} {cs : List Char} {r : List Nat × List Char}
    (h : readUnits units cs = some r) : r.2.length < cs.length := by
  fun_induction readUnits units cs with
  | case1 => simp at h
  | case2 => simp only [Option.some.injEq] at h; subst h; simp
  | case3 units a b c d rest ih =>
    obtain ⟨n, _, hn⟩ := Option.bind_eq_some_iff.1 h
    have := ih n hn
    simp only [List.length_cons]
    omega
  | case4 units c rest _ ih =>
    obtain ⟨n, _, hn⟩ := Option.bind_eq_some_iff.1 h
    have := ih n hn
    simp only [List.length_cons]
    omega
  | case5 => simp at h
  | case6 units c rest _ _ _ _ ih =>
    have := ih h
    simp only [List.length_cons]
    omega

theorem takeDigits_length (cs : List Char) :
    (takeDigits cs).1.length + (takeDigits cs).2.length = cs.length := by
  simp [takeDigits, ← List.length_append, List.takeWhile_append_dropWhile]

theorem wholeDigits_shorter {cs : List Char} {r : List Char × List Char}
    (h : wholeDigits cs = some r) : r.2.length < cs.length := by
  unfold wholeDigits at h
  split at h
  · simp only [Option.some.injEq] at h; subst h; simp
  · split at h
    · simp at h
    · rename_i hne
      simp only [Option.some.injEq] at h
      subst h
      have hl := takeDigits_length cs
      have := List.length_pos_iff.2 hne
      omega

theorem fractionDigits_length (cs : List Char) : (fractionDigits cs).2.length ≤ cs.length := by
  unfold fractionDigits
  split
  · rename_i rest
    have hl := takeDigits_length rest
    split
    · simp
    · simp only [List.length_cons]
      omega
  · simp

theorem takeSign_length (cs : List Char) : (Text.takeSign cs).2.length ≤ cs.length := by
  unfold Text.takeSign
  split <;> simp

theorem powerOfTen_length (cs : List Char) : (powerOfTen cs).2.length ≤ cs.length := by
  unfold powerOfTen
  split
  · simp
  · rename_i e rest
    have hs := takeSign_length rest
    have hl := takeDigits_length (Text.takeSign rest).2
    dsimp only
    split
    · simp only [List.length_cons]
      omega
    · simp

theorem readMagnitude_shorter {negative : Bool} {cs : List Char} {r : Value × List Char}
    (h : readMagnitude negative cs = some r) : r.2.length < cs.length := by
  obtain ⟨whole, hw, h⟩ := Option.bind_eq_some_iff.1 h
  have h1 := wholeDigits_shorter hw
  have h2 := fractionDigits_length whole.2
  have h3 := powerOfTen_length (fractionDigits whole.2).2
  dsimp only at h
  split at h
  · split at h
    · simp at h
    · simp only [Option.some.injEq] at h
      subst h
      simp only
      omega
  · simp only [Option.some.injEq] at h
    subst h
    simp only
    omega

theorem next_shorter {cs : List Char} {r : Token × List Char} (h : next cs = some r) :
    r.2.length < cs.length := by
  unfold next at h
  split at h
  case h_1 => simp at h
  case h_8 =>
    obtain ⟨x, hx, rfl⟩ := Option.map_eq_some_iff.1 h
    have := readUnits_shorter hx
    simp only [List.length_cons]
    omega
  case h_15 =>
    obtain ⟨x, hx, rfl⟩ := Option.map_eq_some_iff.1 h
    have := readMagnitude_shorter hx
    simp only [List.length_cons]
    omega
  case h_16 =>
    obtain ⟨x, hx, rfl⟩ := Option.map_eq_some_iff.1 h
    exact readMagnitude_shorter hx
  all_goals
    simp only [Option.some.injEq] at h
    subst h
    simp only [List.length_cons]
    omega

theorem length_dropWhile_le (p : Char → Bool) (cs : List Char) :
    (cs.dropWhile p).length ≤ cs.length :=
  (List.dropWhile_sublist p).length_le

def all (cs : List Char) : Option (List Token) :=
  match h : cs.dropWhile isSpace with
  | [] => some []
  | c :: rest =>
    match hn : next (c :: rest) with
    | none => none
    | some (token, rest') =>
      have : rest'.length < cs.length :=
        Nat.lt_of_lt_of_le (next_shorter hn) (h ▸ length_dropWhile_le isSpace cs)
      (all rest').map (token :: ·)
termination_by cs.length

end Token

end TimeWindow.Json
