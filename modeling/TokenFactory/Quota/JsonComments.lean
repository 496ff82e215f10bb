import Mathlib

namespace TokenFactory.Quota

universe u

/-! `stripJsonLineComments` of `videoPricingJson.js`. A text is the list of its characters. -/

/-- Where the loop is; in a comment it skips ahead. -/
inductive Scan where
  | outside
  | inString
  | escape
  | comment

def stripFrom : Scan → List Char → List Char
  | _, [] => []
  | .escape, c :: rest => c :: stripFrom .inString rest
  | .inString, c :: rest =>
    c :: stripFrom (if c = '\\' then .escape else if c = '"' then .outside else .inString) rest
  -- The newline that ends the comment is skipped with it.
  | .comment, c :: rest => stripFrom (if c = '\n' then .outside else .comment) rest
  | .outside, c :: rest =>
    if c = '"' then c :: stripFrom .inString rest
    else if c = '/' ∧ rest.head? = some '/' then stripFrom .comment rest
    else c :: stripFrom .outside rest

def stripJsonLineComments (text : List Char) : List Char := stripFrom .outside text

inductive StringItem where
  | plain (c : Char) (plain : c ≠ '"' ∧ c ≠ '\\')
  | escaped (c : Char)

def StringItem.text : StringItem → List Char
  | plain c _ => [c]
  | escaped c => ['\\', c]

/-- A word is a number, a name or a sign: no token but a string has a quote or a slash in it. -/
inductive JsonToken where
  | string (items : List StringItem)
  | word (chars : List Char) (plain : ∀ c ∈ chars, c ≠ '"' ∧ c ≠ '/')

def JsonToken.text : JsonToken → List Char
  | string items => '"' :: items.flatMap StringItem.text ++ ['"']
  | word chars _ => chars

/-- What a text with comments is made of. The newline behind a comment was inserted with it, or it
is one of the text before. -/
inductive Piece where
  | token (token : JsonToken)
  | blank (c : Char) (blank : c ∈ [' ', '\t', '\n', '\r'])
  | comment (content : List Char) (ends : '\n' ∉ content) (ownNewline : Bool)

namespace Piece

def text : Piece → List Char
  | token value => value.text
  | blank c _ => [c]
  | comment content _ _ => '/' :: '/' :: content ++ ['\n']

def before : Piece → List Piece
  | comment _ _ ownNewline => if ownNewline then [] else [blank '\n' (by decide)]
  | piece => [piece]

def token? : Piece → Option JsonToken
  | token value => some value
  | _ => none

def isComment : Piece → Bool
  | comment .. => true
  | _ => false

end Piece

/-- The text is made of these tokens, with blanks around them. -/
def Reads (text : List Char) (tokens : List JsonToken) : Prop :=
  ∃ pieces : List Piece, (∀ piece ∈ pieces, piece.isComment = false) ∧
    pieces.flatMap Piece.text = text ∧ pieces.filterMap Piece.token? = tokens

/-- A text of JSON, whose grammar is one of tokens, and its value. -/
def Valid {Value : Type u} (grammar : List JsonToken → Option Value) (text : List Char)
    (value : Value) : Prop :=
  ∃ tokens, Reads text tokens ∧ grammar tokens = some value

/-- `after` is `before` with comments between the tokens, the last of which may end with the text. -/
structure Commented (tokens : List JsonToken) (before after : List Char) where
  pieces : List Piece
  last : Option (List Char)
  ends : ∀ content ∈ last, '\n' ∉ content
  reads : pieces.filterMap Piece.token? = tokens
  original : (pieces.flatMap Piece.before).flatMap Piece.text = before
  inserted : pieces.flatMap Piece.text ++ (last.map fun content => '/' :: '/' :: content).getD [] = after

theorem strip_string (items : List StringItem) (rest : List Char) :
    stripFrom .inString (items.flatMap StringItem.text ++ '"' :: rest) =
      items.flatMap StringItem.text ++ '"' :: stripFrom .outside rest := by
  induction items with
  | nil => rfl
  | cons item later ih =>
    cases item with
    | plain c plain => simp [StringItem.text, stripFrom, plain, ih]
    | escaped c => simp [StringItem.text, stripFrom, ih]

theorem strip_word {chars : List Char} (plain : ∀ c ∈ chars, c ≠ '"' ∧ c ≠ '/') (rest : List Char) :
    stripFrom .outside (chars ++ rest) = chars ++ stripFrom .outside rest := by
  induction chars with
  | nil => rfl
  | cons c later ih =>
    obtain ⟨first, others⟩ := List.forall_mem_cons.mp plain
    simp [stripFrom, first, ih others]

theorem strip_content {content : List Char} (ends : '\n' ∉ content) (rest : List Char) :
    stripFrom .comment (content ++ rest) = stripFrom .comment rest := by
  induction content with
  | nil => rfl
  | cons c later ih =>
    rw [List.mem_cons, not_or] at ends
    simp [stripFrom, Ne.symm ends.1, ih ends.2]

theorem strip_comment {content : List Char} (ends : '\n' ∉ content) (rest : List Char) :
    stripFrom .outside ('/' :: '/' :: content ++ rest) = stripFrom .comment rest := by
  have inside : stripFrom .comment ('/' :: (content ++ rest)) = stripFrom .comment rest :=
    @strip_content ('/' :: content) (by simpa using ends) rest
  simpa [stripFrom] using inside

theorem strip_pieces (pieces : List Piece) (rest : List Char) :
    stripFrom .outside (pieces.flatMap Piece.text ++ rest) =
      (pieces.filter fun piece => !piece.isComment).flatMap Piece.text ++ stripFrom .outside rest := by
  induction pieces with
  | nil => rfl
  | cons piece later ih =>
    cases piece with
    | token token =>
      cases token with
      | string items =>
        have := strip_string items (later.flatMap Piece.text ++ rest)
        simpa [Piece.text, JsonToken.text, stripFrom, Piece.isComment, ih] using this
      | word chars plain =>
        have := strip_word plain (later.flatMap Piece.text ++ rest)
        simpa [Piece.text, JsonToken.text, Piece.isComment, ih] using this
    | blank c blank =>
      have plain : ∀ other ∈ [c], other ≠ '"' ∧ other ≠ '/' := by
        simp only [List.mem_cons, List.not_mem_nil, or_false] at blank
        rcases blank with rfl | rfl | rfl | rfl <;> simp
      have := strip_word plain (later.flatMap Piece.text ++ rest)
      simpa [Piece.text, Piece.isComment, ih] using this
    | comment content ends ownNewline =>
      have := strip_comment ends ('\n' :: (later.flatMap Piece.text ++ rest))
      simpa [Piece.text, Piece.isComment, stripFrom, ih] using this

variable {tokens : List JsonToken} {before after : List Char}

theorem Commented.reads_before (commented : Commented tokens before after) : Reads before tokens := by
  refine ⟨commented.pieces.flatMap Piece.before, fun piece among => ?_, commented.original, ?_⟩
  · obtain ⟨source, -, member⟩ := List.mem_flatMap.mp among
    cases source with
    | token value | blank c blank =>
      rw [List.mem_singleton.mp member]
      rfl
    | comment content ends ownNewline =>
      simp only [Piece.before] at member
      split at member
      · cases member
      · rw [List.mem_singleton.mp member]
        rfl
  · have kept (piece : Piece) : piece.before.filterMap Piece.token? = piece.token?.toList := by
      cases piece with
      | token value | blank c blank => rfl
      | comment content ends ownNewline => cases ownNewline <;> rfl
    simp only [List.filterMap_flatMap, kept, ← List.filterMap_eq_flatMap_toList, commented.reads]

theorem Commented.stripped (commented : Commented tokens before after) :
    stripJsonLineComments after =
      (commented.pieces.filter fun piece => !piece.isComment).flatMap Piece.text := by
  have ending :
      stripFrom .outside ((commented.last.map fun content => '/' :: '/' :: content).getD []) = [] := by
    cases last : commented.last with
    | none => rfl
    | some content => simpa [stripFrom] using strip_comment (commented.ends content last) []
  refine (congrArg stripJsonLineComments commented.inserted).symm.trans ?_
  rw [stripJsonLineComments, strip_pieces, ending, List.append_nil]

theorem Commented.reads_stripped (commented : Commented tokens before after) :
    Reads (stripJsonLineComments after) tokens := by
  refine ⟨_, fun piece among => ?_, commented.stripped.symm, ?_⟩
  · simpa using (List.mem_filter.mp among).2
  · rw [List.filterMap_filter]
    refine Eq.trans (List.filterMap_congr fun piece _ => ?_) commented.reads
    cases piece <;> rfl

/-- With its comments stripped a text has the value of the text the comments were put in; without
comments nothing is stripped. -/
theorem stripped_comments_keep_value {Value : Type u} (grammar : List JsonToken → Option Value)
    (commented : Commented tokens before after) {value : Value} (valid : grammar tokens = some value) :
    Valid grammar before value ∧ Valid grammar (stripJsonLineComments after) value ∧
      ((∀ piece ∈ commented.pieces, piece.isComment = false) → commented.last = none →
        stripJsonLineComments after = after) := by
  refine ⟨⟨tokens, commented.reads_before, valid⟩, ⟨tokens, commented.reads_stripped, valid⟩, ?_⟩
  intro uncommented ended
  have all : (commented.pieces.filter fun piece => !piece.isComment) = commented.pieces :=
    List.filter_eq_self.mpr fun piece among => by simp [uncommented piece among]
  have inserted := commented.inserted
  rw [ended, Option.map_none, Option.getD_none, List.append_nil] at inserted
  rw [commented.stripped, all, inserted]

/-- Where a reader is behind a character of a text without comments. -/
def Scan.next (c : Char) : Scan → Scan
  | .escape => .inString
  | .inString => if c = '\\' then .escape else if c = '"' then .outside else .inString
  | .outside => if c = '"' then .inString else .outside
  | .comment => .comment

/-- Two slashes in a row stand in a string only. -/
def UncommentedFrom (scan : Scan) (text : List Char) : Prop :=
  ∀ first rest, text = first ++ '/' :: '/' :: rest → first.foldl (fun place c => place.next c) scan ≠ .outside

def Uncommented (text : List Char) : Prop := UncommentedFrom .outside text

theorem uncommentedFrom_nil (scan : Scan) : UncommentedFrom scan [] := by
  intro first rest parts
  simp at parts

theorem uncommentedFrom_cons {scan : Scan} {c : Char} {text : List Char} :
    UncommentedFrom scan (c :: text) ↔
      ¬ (scan = .outside ∧ c = '/' ∧ text.head? = some '/') ∧ UncommentedFrom (scan.next c) text := by
  constructor
  · intro uncommented
    refine ⟨?_, fun first rest parts => uncommented (c :: first) rest (by rw [parts]; rfl)⟩
    rintro ⟨rfl, rfl, slash⟩
    obtain ⟨rest, rfl⟩ : ∃ rest, text = '/' :: rest := by
      cases text with
      | nil => cases slash
      | cons d rest => exact ⟨rest, by rw [Option.some.inj slash]⟩
    exact uncommented [] rest rfl rfl
  · rintro ⟨here, later⟩ first rest parts
    cases first with
    | nil =>
      obtain ⟨rfl, rfl⟩ := List.cons.inj parts
      exact fun outside => here ⟨outside, rfl, rfl⟩
    | cons d first =>
      obtain ⟨rfl, rfl⟩ := List.cons.inj parts
      exact later first rest rfl

theorem uncommentedFrom_strip (scan : Scan) (text : List Char) :
    UncommentedFrom (match scan with | .comment => .outside | _ => scan) (stripFrom scan text) := by
  fun_induction stripFrom scan text with
  | case1 scan => exact uncommentedFrom_nil _
  | case2 c rest ih => exact uncommentedFrom_cons.mpr ⟨by simp, ih⟩
  | case3 c rest ih =>
    refine uncommentedFrom_cons.mpr ⟨by simp, ?_⟩
    simp only [Scan.next]
    split <;> [skip; split] <;> simp_all
  | case4 c rest ih => by_cases ended : c = '\n' <;> simp only [ended, ↓reduceIte] at ih ⊢ <;> exact ih
  | case5 rest ih => exact uncommentedFrom_cons.mpr ⟨by simp, ih⟩
  | case6 => assumption
  | case7 c rest unquoted kept ih =>
    refine uncommentedFrom_cons.mpr ⟨?_, by simpa [Scan.next, unquoted] using ih⟩
    -- What follows a slash that is kept is kept as well.
    cases rest <;> grind [stripFrom]

theorem strip_uncommentedFrom {scan : Scan} {text : List Char} (inside : scan ≠ .comment)
    (uncommented : UncommentedFrom scan text) : stripFrom scan text = text := by
  induction text generalizing scan with
  | nil => cases scan <;> rfl
  | cons c rest ih =>
    obtain ⟨here, later⟩ := uncommentedFrom_cons.mp uncommented
    have kept : stripFrom (scan.next c) rest = rest := ih (by cases scan <;> grind [Scan.next]) later
    cases scan with
    | comment => exact absurd rfl inside
    | escape | inString => exact congrArg (c :: ·) kept
    | outside => grind [stripFrom, Scan.next]

/-- What is left of any text has no comment, and a text without comments is left as it is. -/
theorem stripped_text_uncommented (text : List Char) :
    Uncommented (stripJsonLineComments text) ∧ (stripJsonLineComments text = text ↔ Uncommented text) ∧
      stripJsonLineComments (stripJsonLineComments text) = stripJsonLineComments text := by
  have left : Uncommented (stripJsonLineComments text) := uncommentedFrom_strip .outside text
  refine ⟨left, ⟨fun same => same ▸ left, strip_uncommentedFrom (by simp)⟩, ?_⟩
  exact strip_uncommentedFrom (by simp) left

/-- The string `"//\""` with a comment that holds a quote before it and one behind it. -/
def quotedSlashes : Commented [.string [.plain '/' (by decide), .plain '/' (by decide), .escaped '"']]
    "\"//\\\"\"\n".toList "// \"\n\"//\\\"\"// \n//".toList where
  pieces := [.comment [' ', '"'] (by decide) true,
    .token (.string [.plain '/' (by decide), .plain '/' (by decide), .escaped '"']),
    .comment [' '] (by decide) false]
  last := some []
  ends := by simp
  reads := rfl
  original := by decide
  inserted := by decide

theorem quoted_slashes_kept :
    Valid (fun tokens => some tokens.length) (stripJsonLineComments "// \"\n\"//\\\"\"// \n//".toList) 1 :=
  (stripped_comments_keep_value (fun tokens => some tokens.length) quotedSlashes rfl).2.1

end TokenFactory.Quota
