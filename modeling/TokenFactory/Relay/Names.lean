import TokenFactory.Go.Text

namespace TokenFactory.Relay

open Go

/-! Model names that carry a route: `model/route_slug`, `alias/model/channel_no` and
`alias/model`, and the suffix of compact requests. -/

/-- The pattern `^c\d+$`. -/
def isChannelNo (text : String) : Bool :=
  match text.toList with
  | 'c' :: digits => !digits.isEmpty && digits.all Char.isDigit
  | _ => false

def isBase62 (char : Char) : Bool :=
  ('0' ≤ char && char ≤ '9') || ('A' ≤ char && char ≤ 'Z') || ('a' ≤ char && char ≤ 'z')

/-- The pattern `^[A-Za-z][A-Za-z0-9_\-]*$`. -/
def isSupplierAlias (text : String) : Bool :=
  match text.toList with
  | [] => false
  | first :: rest =>
    (('A' ≤ first && first ≤ 'Z') || ('a' ≤ first && first ≤ 'z')) &&
      rest.all fun char => isBase62 char || char == '_' || char == '-'

def isValidRouteSlug (text : String) : Bool :=
  let slug := trimSpace text
  2 ≤ slug.toList.length && slug.toList.length ≤ 32 && slug.toList.all isBase62 && !isChannelNo slug

structure ModelRouteResult where
  modelName : String
  routeSlug : String
  channelId : Int
deriving DecidableEq

/-- `resolve` is `ResolveChannelIDByRouteSlugAndModel`. -/
def parseModelRouteIndex (resolve : String → String → Int) (raw : String) : Option ModelRouteResult :=
  match cutLast '/' (trimSpace raw) with
  | none => none
  | some (potentialModel, potentialSlug) =>
    if potentialSlug = "" ∨ potentialModel = "" ∨ ¬ isValidRouteSlug potentialSlug then none
    else
      let channelId := resolve potentialSlug potentialModel
      if channelId ≤ 0 then none else some ⟨potentialModel, potentialSlug, channelId⟩

/-- A route slug that resolves to no channel is cut off all the same. -/
def stripRouteSlug (name : String) : Option String :=
  match cutLast '/' name with
  | none => none
  | some (front, back) =>
    if front = "" ∨ back = "" then none
    else if trimSpace front ≠ "" ∧ isValidRouteSlug (trimSpace back) then some (trimSpace front)
    else none

def routeBase? (resolve : String → String → Int) (name : String) : Option String :=
  match parseModelRouteIndex resolve name with
  | some route => some route.modelName
  | none => stripRouteSlug name

def compactModelSuffix : String := "-openai-compact"

def withCompactModelSuffix (modelName : String) : String :=
  if hasSuffix modelName compactModelSuffix then modelName else modelName ++ compactModelSuffix

def handleThinkingBudgetModel (name start wildcard : String) : String :=
  if hasPrefix name start && contains name "-thinking-" then wildcard else name

/-- Models with a thinking budget and custom GPTs are priced and routed under a
wildcard. -/
def formatMatchingModelName (name : String) : String :=
  let budget :=
    if hasPrefix name "gemini-2.5-flash-lite" then
      handleThinkingBudgetModel name "gemini-2.5-flash-lite" "gemini-2.5-flash-lite-thinking-*"
    else if hasPrefix name "gemini-2.5-flash" then
      handleThinkingBudgetModel name "gemini-2.5-flash" "gemini-2.5-flash-thinking-*"
    else if hasPrefix name "gemini-2.5-pro" then
      handleThinkingBudgetModel name "gemini-2.5-pro" "gemini-2.5-pro-thinking-*"
    else name
  let gizmo := if hasPrefix budget "gpt-4-gizmo" then "gpt-4-gizmo-*" else budget
  if hasPrefix gizmo "gpt-4o-gizmo" then "gpt-4o-gizmo-*" else gizmo

theorem handleThinkingBudgetModel_ne_empty {name start wildcard : String} (named : name ≠ "")
    (wild : wildcard ≠ "") : handleThinkingBudgetModel name start wildcard ≠ "" := by
  unfold handleThinkingBudgetModel
  split
  · exact wild
  · exact named

theorem formatMatchingModelName_ne_empty {name : String} (named : name ≠ "") :
    formatMatchingModelName name ≠ "" := by
  unfold formatMatchingModelName
  dsimp only
  split_ifs
  all_goals first
    | exact handleThinkingBudgetModel_ne_empty named (by decide)
    | exact named
    | decide

/-- The names that stand for several models. -/
def matchingWildcards : List String :=
  ["gemini-2.5-flash-lite-thinking-*", "gemini-2.5-flash-thinking-*", "gemini-2.5-pro-thinking-*", "gpt-4-gizmo-*",
    "gpt-4o-gizmo-*"]

theorem formatMatchingModelName_cases (name : String) :
    formatMatchingModelName name = name ∨ formatMatchingModelName name ∈ matchingWildcards := by
  unfold formatMatchingModelName handleThinkingBudgetModel
  dsimp only
  split_ifs <;> simp [matchingWildcards]

theorem formatMatchingModelName_idem (name : String) :
    formatMatchingModelName (formatMatchingModelName name) = formatMatchingModelName name := by
  have fixed : ∀ wildcard ∈ matchingWildcards, formatMatchingModelName wildcard = wildcard := by decide +kernel
  rcases formatMatchingModelName_cases name with same | wild
  · rw [same, same]
  · exact fixed _ wild

theorem isBase62_not_space {char : Char} (base : isBase62 char = true) : isSpace char = false := by
  have code : 48 ≤ char.toNat ∧ char.toNat ≤ 122 := by
    simp only [isBase62, Bool.or_eq_true, Bool.and_eq_true, decide_eq_true_eq, Char.le_def,
      UInt32.le_iff_toNat_le] at base
    change 48 ≤ char.val.toNat ∧ char.val.toNat ≤ 122
    simp only [show ('0' : Char).val.toNat = 48 from rfl, show ('9' : Char).val.toNat = 57 from rfl,
      show ('A' : Char).val.toNat = 65 from rfl, show ('Z' : Char).val.toNat = 90 from rfl,
      show ('a' : Char).val.toNat = 97 from rfl, show ('z' : Char).val.toNat = 122 from rfl] at base
    omega
  simp only [isSpace, Bool.or_eq_false_iff, Bool.and_eq_false_iff, decide_eq_false_iff_not, beq_eq_false_iff_ne]
  omega

end TokenFactory.Relay
