import TokenFactory.Options.Atomic

namespace TokenFactory.Options

open Data Go

namespace Settings
variable {codec : Codec} {settings : Settings} {request : OptionRequest}

/-- Nothing but one option and its map has changed. -/
structure Others (key : OptionKey) (before after : Settings) : Prop where
  rows : ∀ other, other ≠ key → after.rows other = before.rows other
  optionMap : ∀ other, other ≠ key → after.optionMap other = before.optionMap other
  maps : ∀ rates, rates ≠ key.rates → after.maps rates = before.maps rates

theorem Others.refl (key : OptionKey) (settings : Settings) : Others key settings settings :=
  ⟨fun _ _ => rfl, fun _ _ => rfl, fun _ _ => rfl⟩

theorem Others.trans {key : OptionKey} {middle after : Settings} (first : Others key settings middle)
    (second : Others key middle after) : Others key settings after where
  rows := fun other different => (second.rows other different).trans (first.rows other different)
  optionMap := fun other different => (second.optionMap other different).trans (first.optionMap other different)
  maps := fun rates different => (second.maps rates different).trans (first.maps rates different)

theorem others_writeRow (write : Write) (key : OptionKey) (text : String) :
    Others key settings (settings.writeRow write key text) := by
  have row : ∀ value : Option String,
      Others key settings { settings with rows := Function.update settings.rows key value } :=
    fun value => ⟨fun other different => Function.update_of_ne different value settings.rows, fun _ _ => rfl,
      fun _ _ => rfl⟩
  unfold writeRow
  cases write with
  | saved => exact row (some text)
  | created =>
    dsimp only
    split
    · exact row (some "")
    · exact .refl key settings
  | failed => exact .refl key settings

theorem others_updateOptionMap (visit : Visit) (key : OptionKey) (text : String) :
    Others key settings (settings.updateOptionMap codec visit key text).2 where
  rows := by
    intro other _
    rw [updateOptionMap_rows]
  optionMap := by
    intro other different
    rw [updateOptionMap_optionMap]
    exact Function.update_of_ne different text settings.optionMap
  maps := fun rates different => (updateOptionMap_other (Ne.symm different)).map

theorem others_updateOption (visit : Visit) (write : Write) (key : OptionKey) (text : String) :
    Others key settings (settings.updateOption codec visit write key text).2 :=
  (others_writeRow write key text).trans (others_updateOptionMap visit key text)

theorem others_checkOption (text : String) :
    Others request.key settings (settings.checkOption codec request text).2 := by
  unfold checkOption
  cases named : request.key with
  | groupRatioSetting field => exact .refl _ settings
  | option rates =>
    dsimp only
    unfold check
    split
    · exact .refl _ settings
    · split
      · exact .refl _ settings
      · exact ⟨fun _ _ => rfl, fun _ _ => rfl, fun other different => load_other different⟩

theorem others_updateOptionHandler :
    Others request.key settings (settings.updateOptionHandler codec request).2 := by
  unfold updateOptionHandler
  split
  · split
    · exact .refl request.key settings
    · rw [answer_snd]
      exact others_updateOption _ _ _ _
  · dsimp only
    have checked : Others request.key settings
        (settings.checkOption codec request (valueText codec request.value)).2 := others_checkOption _
    split
    · next outcome =>
        rw [outcome] at checked
        exact checked
    · next outcome =>
        rw [outcome] at checked
        rw [answer_snd]
        exact checked.trans (others_updateOption _ _ _ _)

theorem supplier_keeps_map {rates : Rates} (supplier : request.role < Auth.Role.adminUser)
    (apart : request.key = .option rates → rates ∉ supplierEditableModelOptionKeys) :
    (settings.updateOptionHandler codec request).2.maps rates = settings.maps rates := by
  by_cases editable : request.key.supplierEditable = false
  · have refused : settings.supplierText codec request = .error "供应商仅可修改模型倍率相关配置" :=
      if_pos editable
    unfold updateOptionHandler
    rw [if_pos supplier, refused]
  · refine others_updateOptionHandler.maps rates fun same => ?_
    cases named : request.key with
    | groupRatioSetting field =>
      rw [named] at editable
      exact editable rfl
    | option own =>
      rw [named] at editable same
      cases same
      exact apart named (of_decide_eq_true (Bool.not_eq_false _ |>.mp editable))

end Settings

end TokenFactory.Options
