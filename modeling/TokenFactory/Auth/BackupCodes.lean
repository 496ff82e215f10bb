import TokenFactory.Data.Run

namespace TokenFactory.Auth

open Data

/-! Backup codes of the second factor. -/

def backupCodeLength : Nat := 8

structure TwoFABackupCode where
  id : Nat
  userId : Nat
  codeHash : String
  isUsed : Bool := false
deriving DecidableEq

/-- `unicode.ToUpper` and the check of a password against a hash. -/
structure CodeLibrary where
  toUpper : Char → Char
  validatePasswordAndHash : String → String → Bool

namespace CodeLibrary

variable (library : CodeLibrary)

def cleanCode (code : String) : String := String.ofList ((code.toList.filter (· ≠ '-')).map library.toUpper)

def validateBackupCode (code : String) : Bool :=
  (library.cleanCode code).utf8ByteSize = backupCodeLength &&
    (library.cleanCode code).toList.all fun char => ('A' ≤ char && char ≤ 'Z') || ('0' ≤ char && char ≤ '9')

/-- Characters are bytes here: the code has been validated. -/
def normalizeBackupCode (code : String) : String :=
  let cleanCode := library.cleanCode code
  if cleanCode.utf8ByteSize = backupCodeLength then
    String.ofList (cleanCode.toList.take 4) ++ "-" ++ String.ofList (cleanCode.toList.drop 4)
  else code

/-- The stored code that the first step of `ValidateBackupCode` finds. -/
def findBackupCode (codes : List TwoFABackupCode) (userId : Nat) (code : String) : Option TwoFABackupCode :=
  if library.validateBackupCode code then
    (codes.filter fun stored => stored.userId = userId && !stored.isUsed).find? fun stored =>
      library.validatePasswordAndHash (library.normalizeBackupCode code) stored.codeHash
  else none

end CodeLibrary

/-- A call that has found a code holds it until it is saved; `accepted` are the codes that calls returned true for. -/
structure CodeCalls where
  codes : List TwoFABackupCode
  calls : List (Option TwoFABackupCode) := []
  accepted : List Nat := []

inductive CodeEvent where
  | read (userId : Nat) (code : String)
  | save (call : Nat)

def CodeCalls.step (library : CodeLibrary) (state : CodeCalls) : CodeEvent → CodeCalls
  | .read userId code => { state with calls := state.calls ++ [library.findBackupCode state.codes userId code] }
  | .save call =>
    match state.calls[call]? with
    | some (some found) =>
      { codes := state.codes.map fun stored => if stored.id = found.id then { found with isUsed := true } else stored
        calls := state.calls.set call none
        accepted := found.id :: state.accepted }
    | _ => state

/-- No call that has not saved yet holds the code that this read finds. -/
def CodeEvent.Alone (library : CodeLibrary) (state : CodeCalls) : CodeEvent → Prop
  | .read userId code => ∀ found ∈ library.findBackupCode state.codes userId code,
    ∀ call ∈ state.calls, ∀ held ∈ call, held.id ≠ found.id
  | .save _ => True

instance (library : CodeLibrary) (state : CodeCalls) : (event : CodeEvent) → Decidable (event.Alone library state)
  | .read .. => inferInstanceAs (Decidable (∀ _ ∈ _, _))
  | .save _ => .isTrue trivial

structure CodeCalls.Spent (state : CodeCalls) : Prop where
  once : state.accepted.Nodup
  used : ∀ id ∈ state.accepted, ∀ stored ∈ state.codes, stored.id = id → stored.isUsed = true
  fresh : ∀ (index : Nat) (found : TwoFABackupCode), state.calls[index]? = some (some found) → found.id ∉ state.accepted
  apart : ∀ (first second : Nat) (one two : TwoFABackupCode), state.calls[first]? = some (some one) →
    state.calls[second]? = some (some two) → one.id = two.id → first = second

theorem findBackupCode_unused {library : CodeLibrary} {codes : List TwoFABackupCode} {userId : Nat} {code : String}
    {found : TwoFABackupCode} (finds : library.findBackupCode codes userId code = some found) :
    found ∈ codes ∧ found.isUsed = false := by
  simp only [CodeLibrary.findBackupCode, Option.ite_none_right_eq_some] at finds
  have stored := List.mem_filter.mp (List.mem_of_find?_eq_some finds.2)
  simp only [Bool.and_eq_true, Bool.not_eq_true'] at stored
  exact ⟨stored.1, stored.2.2⟩

theorem read_spent {library : CodeLibrary} {state : CodeCalls} {userId : Nat} {code : String} (spent : state.Spent)
    (alone : (CodeEvent.read userId code).Alone library state) : (state.step library (.read userId code)).Spent := by
  have holds {index : Nat} {found : TwoFABackupCode}
      (listed : (state.step library (.read userId code)).calls[index]? = some (some found)) :
      state.calls[index]? = some (some found) ∨
        index = state.calls.length ∧ library.findBackupCode state.codes userId code = some found := by
    simp only [CodeCalls.step, List.getElem?_append] at listed
    split at listed
    · exact .inl listed
    · obtain ⟨last, finds⟩ := List.getElem?_eq_some_iff.mp listed
      simp only [List.length_singleton, Nat.lt_one_iff] at last
      simp only [last, List.getElem_cons_zero] at finds
      exact .inr ⟨by omega, finds⟩
  refine { spent with fresh := fun index found listed => ?_, apart := fun first second one two held other same => ?_ }
  · rcases holds listed with earlier | ⟨-, finds⟩
    · exact spent.fresh index found earlier
    · obtain ⟨stored, unused⟩ := findBackupCode_unused finds
      intro accepted
      rw [spent.used _ accepted found stored rfl] at unused
      cases unused
  · rcases holds held with earlier | ⟨now, finds⟩ <;> rcases holds other with before | ⟨later, finding⟩
    · exact spent.apart first second one two earlier before same
    · exact absurd same (alone two finding _ (List.mem_of_getElem? earlier) one rfl)
    · exact absurd same.symm (alone one finds _ (List.mem_of_getElem? before) two rfl)
    · exact now.trans later.symm

theorem save_spent {library : CodeLibrary} {state : CodeCalls} {call : Nat} (spent : state.Spent) :
    (state.step library (.save call)).Spent := by
  simp only [CodeCalls.step]
  split
  case h_2 => exact spent
  case h_1 found listed =>
    have others {index : Nat} {other : TwoFABackupCode}
        (holds : (state.calls.set call none)[index]? = some (some other)) :
        call ≠ index ∧ state.calls[index]? = some (some other) := by
      by_cases same : call = index
      · simp [← same, List.getElem?_set_self'] at holds
      · exact ⟨same, by rwa [List.getElem?_set_ne same] at holds⟩
    refine ⟨List.nodup_cons.mpr ⟨spent.fresh call found listed, spent.once⟩, ?_, ?_, ?_⟩
    · intro id accepted stored member same
      obtain ⟨old, before, rfl⟩ := List.mem_map.mp member
      by_cases saved : old.id = found.id
      · simp [saved]
      · rw [if_neg saved] at same ⊢
        rcases List.mem_cons.mp accepted with now | earlier
        · exact absurd (same.trans now) saved
        · exact spent.used id earlier old before same
    · intro index other holds accepted
      obtain ⟨apart, held⟩ := others holds
      rcases List.mem_cons.mp accepted with same | earlier
      · exact apart (spent.apart call index found other listed held same.symm)
      · exact spent.fresh index other held earlier
    · intro first second one two holds held
      exact spent.apart first second one two (others holds).2 (others held).2

/-- Calls accept no code twice if none of them reads a code that another one is about to save. -/
theorem codes_accepted_once (library : CodeLibrary) (codes : List TwoFABackupCode) (events : List CodeEvent)
    (alone : Guarded (CodeCalls.step library) (fun state event => event.Alone library state) { codes } events) :
    (run (CodeCalls.step library) { codes } events).accepted.Nodup := by
  have spent : (run (CodeCalls.step library) { codes } events).Spent := by
    refine Guarded.invariant ?_ ⟨.nil, nofun, nofun, nofun⟩ alone
    intro state event spent alone
    cases event with
    | read userId code => exact read_spent spent alone
    | save call => exact save_spent spent
  exact spent.once

def plainLibrary : CodeLibrary := ⟨Char.toUpper, fun password hash => password == hash⟩

def backupCodes : List TwoFABackupCode := [⟨1, 7, "AB12-CD34", false⟩, ⟨2, 7, "EF56-GH78", false⟩]

theorem repeated_code_accepted_once :
    let events := [.read 7 "ab12cd34", .save 0, .read 7 "AB12-CD34", .save 1, .read 7 "ef56-gh78", .save 2]
    (run (CodeCalls.step plainLibrary) { codes := backupCodes } events).accepted = [2, 1] ∧
      (run (CodeCalls.step plainLibrary) { codes := backupCodes } events).accepted.Nodup :=
  ⟨by decide +kernel, codes_accepted_once plainLibrary backupCodes _ (by decide +kernel)⟩

/-- Two calls that both read before either saves accept the same code. -/
theorem code_accepted_twice : ¬ (run (CodeCalls.step plainLibrary) { codes := backupCodes }
      [.read 7 "ab12cd34", .read 7 "AB12-CD34", .save 0, .save 1]).accepted.Nodup := by
  decide +kernel

end TokenFactory.Auth
