import Mathlib

namespace TokenFactory.Go

/-! The string functions of Go's standard library that the program uses. -/

/-- `unicode.IsSpace`: the code points with the White Space property. -/
def isSpace (char : Char) : Bool :=
  let code := char.toNat
  (9 ≤ code && code ≤ 13) || code == 0x20 || code == 0x85 || code == 0xA0 || code == 0x1680 ||
    (0x2000 ≤ code && code ≤ 0x200A) || code == 0x2028 || code == 0x2029 || code == 0x202F ||
    code == 0x205F || code == 0x3000

def trimChars (chars : List Char) : List Char :=
  List.rdropWhile isSpace (chars.dropWhile isSpace)

/-- `strings.TrimSpace`. -/
def trimSpace (text : String) : String := String.ofList (trimChars text.toList)

/-- `strings.Contains`. -/
def contains (text part : String) : Bool := decide (part.toList <:+: text.toList)

/-- `strings.Replace` of the first occurrence by nothing. -/
def removeFirst (part : List Char) : List Char → List Char
  | [] => []
  | char :: rest =>
    if part.isPrefixOf (char :: rest) then (char :: rest).drop part.length
    else char :: removeFirst part rest

/-- `strings.HasPrefix`. -/
def hasPrefix (text start : String) : Bool := start.toList.isPrefixOf text.toList

/-- `strings.HasSuffix`. -/
def hasSuffix (text ending : String) : Bool := ending.toList.isSuffixOf text.toList

/-- `strings.TrimSuffix`. -/
def trimSuffix (text ending : String) : String :=
  if hasSuffix text ending then String.ofList (text.toList.take (text.toList.length - ending.toList.length))
  else text

/-- `strings.TrimPrefix`. -/
def trimPrefix (text start : String) : String :=
  if hasPrefix text start then String.ofList (text.toList.drop start.toList.length) else text

/-- `strings.Split` at a one-character separator. -/
def split (separator : Char) (text : String) : List String :=
  (text.toList.splitOn separator).map String.ofList

/-- The parts around a longer separator; `part` has been read, and `skip` more characters
belong to a separator. -/
def splitCharsAround (separator : List Char) : (part : List Char) → (skip : Nat) → List Char → List (List Char)
  | part, _, [] => [part.reverse]
  | part, skip + 1, _ :: rest => splitCharsAround separator part skip rest
  | part, 0, char :: rest =>
    if separator.isPrefixOf (char :: rest) then
      part.reverse :: splitCharsAround separator [] (separator.length - 1) rest
    else splitCharsAround separator (char :: part) 0 rest

/-- `strings.Split` at a separator that is not empty. -/
def splitAround (separator text : String) : List String :=
  (splitCharsAround separator.toList [] 0 text.toList).map String.ofList

example : splitAround "::" "MJ::JOB::upsample::2" = ["MJ", "JOB", "upsample", "2"] := by decide +kernel

/-- `strings.Join` with a one-character separator. -/
def join (separator : Char) (parts : List String) : String :=
  String.ofList ([separator].intercalate (parts.map String.toList))

theorem mem_of_mem_splitOn {separator char : Char} {chars part : List Char}
    (among : part ∈ chars.splitOn separator) (member : char ∈ part) : char ∈ chars := by
  induction chars generalizing part with
  | nil =>
    rw [List.splitOn_nil, List.mem_singleton] at among
    exact among ▸ member
  | cons first rest ih =>
    rw [List.splitOn_cons_eq_if_modifyHead] at among
    split at among
    · rcases List.mem_cons.mp among with rfl | later
      · cases member
      · exact .tail _ (ih later member)
    · cases parts : rest.splitOn separator with
      | nil => exact absurd parts (List.splitOn_ne_nil _ _)
      | cons head tail =>
        rw [parts, List.modifyHead_cons] at among
        rcases List.mem_cons.mp among with rfl | later
        · rcases List.mem_cons.mp member with rfl | inside
          · exact .head _
          · exact .tail _ (ih (parts ▸ .head _) inside)
        · exact .tail _ (ih (parts ▸ .tail _ later) member)

theorem mem_of_mem_split {separator char : Char} {text part : String} (among : part ∈ split separator text)
    (member : char ∈ part.toList) : char ∈ text.toList := by
  obtain ⟨chars, found, rfl⟩ := List.mem_map.mp among
  rw [String.toList_ofList] at member
  exact mem_of_mem_splitOn found member

/-- What stands before and after the last separator, as `strings.LastIndex` finds it. -/
def cutLast (separator : Char) (text : String) : Option (String × String) :=
  match text.toList.reverse.dropWhile (· ≠ separator) with
  | [] => none
  | _ :: front =>
    some (String.ofList front.reverse,
      String.ofList (text.toList.reverse.takeWhile (· ≠ separator)).reverse)

/-- `strconv.Atoi`, for a decimal number of 64 bits with or without a sign. -/
def atoi (text : String) : Option Int :=
  let number (digits : List Char) : Option Int :=
    if digits = [] ∨ ¬ digits.all Char.isDigit then none
    else some (digits.foldl (fun value digit => 10 * value + (digit.toNat - '0'.toNat)) 0)
  let value :=
    match text.toList with
    | '-' :: digits => (number digits).map fun value => -value
    | '+' :: digits => number digits
    | digits => number digits
  value.filter fun value => -(2 ^ 63) ≤ value ∧ value < 2 ^ 63

theorem head?_trimChars (chars : List Char) :
    (trimChars chars).head? = chars.find? fun char => !isSpace char := by
  induction chars with
  | nil => rfl
  | cons char rest ih =>
    by_cases space : isSpace char = true
    · have same : trimChars (char :: rest) = trimChars rest := by
        rw [trimChars, List.dropWhile_cons_of_pos space, trimChars]
      rw [same, ih, List.find?_cons_of_neg (by simp [space])]
    · rw [List.find?_cons_of_pos (by simpa using space), trimChars, List.dropWhile_cons_of_neg space]
      cases kept : List.rdropWhile isSpace (char :: rest) with
      | nil => exact absurd (List.rdropWhile_eq_nil_iff.mp kept char (.head _)) space
      | cons first tail =>
        obtain ⟨cut, whole⟩ := List.rdropWhile_prefix isSpace (char :: rest)
        rw [kept, List.cons_append] at whole
        exact congrArg some (List.cons.inj whole).1

theorem trimChars_idempotent (chars : List Char) : trimChars (trimChars chars) = trimChars chars := by
  have inner : (trimChars chars).dropWhile isSpace = trimChars chars := by
    have found := head?_trimChars chars
    cases kept : trimChars chars with
    | nil => rfl
    | cons first rest =>
      rw [kept] at found
      have solid := List.find?_some found.symm
      exact List.dropWhile_cons_of_neg (by simpa using solid)
  rw [trimChars, inner]
  exact List.rdropWhile_idempotent isSpace _

@[simp] theorem trimSpace_idempotent (text : String) :
    trimSpace (trimSpace text) = trimSpace text := by
  simp only [trimSpace, String.toList_ofList, trimChars_idempotent]

theorem trimSpace_eq_self {text : String} (starts : ∀ char ∈ text.toList.head?, isSpace char = false)
    (ends : ∀ char ∈ text.toList.getLast?, isSpace char = false) : trimSpace text = text := by
  have front : text.toList.dropWhile isSpace = text.toList := by
    cases chars : text.toList with
    | nil => rfl
    | cons first rest =>
      have kept := starts first (by rw [chars]; rfl)
      rw [List.dropWhile_cons, kept]
      rfl
  have back : text.toList.rdropWhile isSpace = text.toList := by
    refine List.rdropWhile_eq_self_iff.mpr fun nonempty space => ?_
    have kept := ends _ (List.getLast?_eq_getLast_of_ne_nil nonempty)
    rw [kept] at space
    cases space
  rw [trimSpace, trimChars, front, back, String.ofList_toList]

theorem length_trimSpace_le (text : String) : (trimSpace text).length ≤ text.length := by
  rw [trimSpace, String.length_ofList, ← String.length_toList]
  exact le_trans (List.rdropWhile_prefix isSpace _).length_le (List.dropWhile_suffix isSpace).length_le

@[simp] theorem trimSpace_empty : trimSpace "" = "" := rfl

variable {parts : List String} {separator : Char}

theorem split_join (nonempty : parts ≠ [])
    (absent : ∀ part ∈ parts, separator ∉ part.toList) : split separator (join separator parts) = parts := by
  have chars : ∀ part ∈ parts.map String.toList, separator ∉ part := by
    intro part member
    obtain ⟨text, among, rfl⟩ := List.mem_map.mp member
    exact absent text among
  rw [split, join, String.toList_ofList, List.splitOn_intercalate separator chars (by simpa using nonempty),
    List.map_map]
  calc parts.map (String.ofList ∘ String.toList)
      = parts.map id := List.map_congr_left fun part _ => String.ofList_toList
    _ = parts := List.map_id parts

theorem join_split (separator : Char) (text : String) : join separator (split separator text) = text := by
  have chars : ((text.toList.splitOn separator).map String.ofList).map String.toList =
      text.toList.splitOn separator := by
    rw [List.map_map]
    calc (text.toList.splitOn separator).map (String.toList ∘ String.ofList)
        = (text.toList.splitOn separator).map id := List.map_congr_left fun part _ => String.toList_ofList
      _ = text.toList.splitOn separator := List.map_id _
  rw [join, split, chars, List.intercalate_splitOn, String.ofList_toList]

theorem join_cons {part : String} (nonempty : parts ≠ []) :
    (join separator (part :: parts)).toList = part.toList ++ separator :: (join separator parts).toList := by
  rw [join, join, String.toList_ofList, String.toList_ofList, List.map_cons,
    List.intercalate_cons_of_ne_nil (by simpa using nonempty), List.append_assoc]
  rfl

theorem join_singleton (separator : Char) (part : String) : join separator [part] = part := by
  simp [join]

theorem join_ends (nonempty : parts ≠ []) (full : ∀ part ∈ parts, part ≠ "") :
    (∃ char, (join separator parts).toList.head? = Option.some char ∧ ∃ part ∈ parts, char ∈ part.toList) ∧
      ∃ char, (join separator parts).toList.getLast? = Option.some char ∧ ∃ part ∈ parts, char ∈ part.toList := by
  induction parts with
  | nil => exact absurd rfl nonempty
  | cons part rest ih =>
    have chars : part.toList ≠ [] := fun empty => full part (.head _) (String.toList_eq_nil_iff.mp empty)
    have first := List.head?_eq_some_head chars
    cases rest with
    | nil =>
      rw [join_singleton]
      exact ⟨⟨_, first, part, .head _, List.head_mem chars⟩,
        ⟨_, List.getLast?_eq_some_getLast chars, part, .head _, List.getLast_mem chars⟩⟩
    | cons next later =>
      obtain ⟨_, last, ends, other, member, inside⟩ :=
        ih (List.cons_ne_nil _ _) fun other member => full other (.tail _ member)
      rw [join_cons (List.cons_ne_nil _ _)]
      refine ⟨⟨part.toList.head chars, ?_, part, .head _, List.head_mem chars⟩,
        ⟨last, ?_, other, .tail _ member, inside⟩⟩
      · rw [List.head?_append, first]
        rfl
      · rw [List.getLast?_append, List.getLast?_cons, ends]
        rfl

theorem find?_join {char : Char} {holds : Char → Bool}
    (skipped : holds separator = false) (found : (join separator parts).toList.find? holds = some char) :
    ∃ part ∈ parts, part.toList.find? holds = some char := by
  induction parts with
  | nil => cases found
  | cons part rest ih =>
    cases rest with
    | nil =>
      rw [join_singleton] at found
      exact ⟨part, .head _, found⟩
    | cons next later =>
      rw [join_cons (List.cons_ne_nil _ _), List.find?_append] at found
      cases own : part.toList.find? holds with
      | some first =>
        rw [own] at found
        exact ⟨part, .head _, own.trans found⟩
      | none =>
        rw [own, List.find?_cons_of_neg (by simp [skipped])] at found
        obtain ⟨other, member, holds⟩ := ih found
        exact ⟨other, .tail _ member, holds⟩

/-- `strconv.Itoa`, for a number that is not negative. -/
def itoa (number : Nat) : String := toString number

theorem itoa_digits {number : Nat} {char : Char} (among : char ∈ (itoa number).toList) : char.isDigit = true := by
  rw [itoa, Nat.toString_eq_ofList_toDigits, String.toList_ofList] at among
  exact Nat.isDigit_of_mem_toDigits (by decide) (by decide) among

theorem itoa_inj {first second : Nat} (same : itoa first = itoa second) : first = second := Nat.repr_inj.mp same

end TokenFactory.Go
