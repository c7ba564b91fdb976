import Keyring.Proofs.DispatchTrace

/-!
# Types that a registry has

A registration and a dispatch convert the type that they are given to an integer; asking whether a
registry has a type compares instead. For integers, and all that is equal to one, this comes to the
same: what a value is equal to is what it is converted to. A text is converted and equal to no
integer, and neither is a number with a fraction, so that no registry has them, whatever it is
registered under them. Bytes that are open to change are converted, too, and cannot be looked up.
-/

namespace Keyring

/-! ## Values that are equal to an integer -/

/-- What a value is equal to is what it is converted to. -/
theorem Value.toInteger_of_equalInteger? {value : Value} {n : Int}
    (h : value.equalInteger? = some n) : value.toInteger = .ok n := by
  cases value with
  | float x =>
    cases x with
    | finite negative mantissa exponent =>
      simp only [equalInteger?, Binary64.toInt?, Option.ite_none_right_eq_some] at h
      simp only [toInteger, h.2, Option.getD_some]
    | _ => cases h
  | _ => exact Registry.toInteger_of_integer? h

/-- What is equal to an integer can be looked up. -/
theorem Value.isHashable_of_equalInteger? {value : Value} {n : Int}
    (h : value.equalInteger? = some n) : value.isHashable = true := by
  cases value with
  | tuple items => cases h
  | buffer kind bytes => cases h
  | list items => cases h
  | record fields => cases h
  | source origin => cases h
  | _ => rfl

/-- Of what is converted to an integer, only bytes that are open to change cannot be looked up. -/
theorem Value.isHashable_eq_false_iff {value : Value} {n : Int} (h : value.toInteger = .ok n) :
    value.isHashable = false ↔ ∃ bytes, value = .buffer .mutable bytes := by
  cases value with
  | buffer kind bytes => cases kind <;> simp [isHashable]
  | tuple items => cases h
  | list items => cases h
  | record fields => cases h
  | source origin => cases h
  | _ => simp [isHashable]

namespace Registry

variable {Handler : Type}

/-- A registry has what is equal to a type with a handler. -/
theorem contains_of_equalInteger? (registry : Registry Handler) {value : Value} {n : Int}
    (h : value.equalInteger? = some n) :
    registry.contains value = .ok (registry.find? n).isSome := by
  simp only [contains, Value.isHashable_of_equalInteger? h, if_true, h]

/-- A registry does not have what is equal to no integer. -/
theorem contains_of_not_equalInteger? (registry : Registry Handler) {value : Value}
    (h : value.equalInteger? = none) :
    registry.contains value = if value.isHashable then .ok false else .error .wrongType := by
  simp only [contains, h]

/-- A dispatch calls the handler of the type that a value is converted to, if it has one. -/
theorem dispatch_eq_call_iff (registry : Registry Handler) {value data length : Value} {n : Int}
    {block : Bytes} (h : value.toInteger = .ok n) (hb : blockData data length = .ok block)
    (handler : Handler) :
    registry.dispatch value data length = .ok (.call handler n block) ↔
      registry.find? n = some handler := by
  unfold dispatch
  cases hf : registry.find? n with
  | none => simp [h, hf]
  | some found => simp [h, hf, hb, Except.map]

/-! ## Membership and dispatch -/

/-- What a registry says about a value that is converted to a type: whether it has the value, and
which handler a dispatch of it calls with a block. A value that is equal to an integer is in the
registry exactly if its dispatch calls a handler, and is in it once a handler is registered for it.
Any other value is not, even if its dispatch calls a handler, as it does once one is registered for
it; bytes that are open to change cannot even be asked for. In a registry that is left by calls, a
dispatch calls a handler exactly if one was registered for the type since the last clearing. -/
theorem contains_iff_dispatch (registry : Registry Handler) {value data length : Value} {n : Int}
    {block : Bytes} (h : value.toInteger = .ok n) (hb : blockData data length = .ok block) :
    (∀ handler, ∃ changed log, registry.register value handler = .ok (changed, log) ∧
      changed.dispatch value data length = .ok (.call handler n block) ∧
      (changed.contains value = .ok true ↔ value.equalInteger?.isSome = true)) ∧
    (value.equalInteger?.isSome = true →
      (registry.contains value = .ok true ↔
        ∃ handler, registry.dispatch value data length = .ok (.call handler n block))) ∧
    (value.equalInteger? = none →
      ((∃ bytes, value = .buffer .mutable bytes) → registry.contains value = .error .wrongType) ∧
      ((∀ bytes, value ≠ .buffer .mutable bytes) → registry.contains value = .ok false)) ∧
    ∀ calls, registry = empty.after calls →
      ((∃ handler, registry.dispatch value data length = .ok (.call handler n block)) ↔
        (latest? calls n).isSome = true) := by
  have hequal : ∀ m, value.equalInteger? = some m → m = n := by
    intro m hm
    have hconverted := Value.toInteger_of_equalInteger? hm
    rw [h, Except.ok.injEq] at hconverted
    exact hconverted.symm
  have hcalls : (∃ handler, registry.dispatch value data length = .ok (.call handler n block)) ↔
      (registry.find? n).isSome = true := by
    simp only [dispatch_eq_call_iff registry h hb, Option.isSome_iff_exists]
  rw [hcalls]
  refine ⟨?_, ?_, ?_, ?_⟩
  · intro handler
    have hput : (registry.put n handler).find? n = some handler := by rw [find?_put, if_pos rfl]
    refine ⟨registry.put n handler, _, by simp only [register, h]; rfl,
      (dispatch_eq_call_iff _ h hb handler).2 hput, ?_⟩
    cases hv : value.equalInteger? with
    | none =>
      rw [contains_of_not_equalInteger? _ hv]
      split <;> simp
    | some m =>
      rw [contains_of_equalInteger? _ hv, hequal m hv, hput]
      simp
  · intro hsome
    obtain ⟨m, hm⟩ := Option.isSome_iff_exists.1 hsome
    rw [contains_of_equalInteger? registry hm, hequal m hm, Except.ok.injEq]
  · intro hnone
    rw [contains_of_not_equalInteger? registry hnone]
    refine ⟨fun hbytes => ?_, fun hbytes => ?_⟩
    · rw [(Value.isHashable_eq_false_iff h).2 hbytes]
      rfl
    · have hhashable : value.isHashable = true := by
        rw [← Bool.not_eq_false, Value.isHashable_eq_false_iff h]
        rintro ⟨bytes, he⟩
        exact hbytes bytes he
      rw [if_pos hhashable]
  · rintro calls rfl
    rw [find?_after]

/-- A handler that is registered for a truth value is called for it, and the truth value is in the
registry. -/
theorem contains_registered_truth :
    (Value.bool true).toInteger = .ok 1 ∧ blockData (.buffer .fixed [7]) .null = .ok [7] ∧
      ∃ (changed : Registry String) (log : List LogEntry),
        (empty : Registry String).register (.bool true) "handler" = .ok (changed, log) ∧
          changed.dispatch (.bool true) (.buffer .fixed [7]) .null = .ok (.call "handler" 1 [7]) ∧
          changed.contains (.bool true) = .ok true := by
  have h : (Value.bool true).toInteger = .ok 1 := rfl
  have hb : blockData (.buffer .fixed [7]) .null = .ok [7] := rfl
  obtain ⟨changed, log, hr, hd, hc⟩ :=
    (contains_iff_dispatch (empty : Registry String) h hb).1 "handler"
  exact ⟨h, hb, changed, log, hr, hd, hc.2 rfl⟩

/-- A handler that is registered for a text of digits is called for it, and the text is not in the
registry. -/
theorem registered_text_not_contained :
    ∃ changed : Registry String,
      (empty : Registry String).register (.text "12") "handler" = .ok (changed, []) ∧
        changed.dispatch (.text "12") (.buffer .fixed [7]) .null = .ok (.call "handler" 12 [7]) ∧
        changed.contains (.text "12") = .ok false :=
  ⟨⟨[(12, "handler")]⟩, rfl, rfl, rfl⟩

end Registry

end Keyring
