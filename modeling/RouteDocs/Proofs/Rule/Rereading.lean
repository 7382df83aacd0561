import RouteDocs.Proofs.Rule.Additions
import RouteDocs.Proofs.Rule.Canonical

/-!
Reading the rules that were listed for a field. Only rules named `required` are not listed; without
them the field is the same, but for its being required and for their messages.
-/

namespace RouteDocs.Rule

/-- The readings differ at most in whether the field is required and in messages. -/
def Alike (r other : Reading) : Prop :=
  ∃ required messages, other = { r with field := { r.field with required, messages } }

namespace Alike

variable {r other : Reading}

theorem refl (r : Reading) : Alike r r :=
  ⟨_, _, rfl⟩

theorem of_both {next : Reading} (alike : Alike r other) (close : Alike r next) :
    Alike next other := by
  obtain ⟨_, _, rfl⟩ := alike
  obtain ⟨_, _, rfl⟩ := close
  exact ⟨_, _, rfl⟩

theorem sentence (alike : Alike r other) (s : Setting) (call : Call) :
    call.sentence? s other.field = call.sentence? s r.field := by
  obtain ⟨_, _, rfl⟩ := alike
  rfl

end Alike

theorem Effect.describe_aside (effect : Effect) (parameters : List String) (f : Field)
    (required : Bool) (messages : List String) :
    effect.describe parameters { f with required, messages } =
      { effect.describe parameters f with
        required := required || (effect.addition parameters).required
        messages } := by
  cases effect with
  | specimen format kind => cases format <;> simp [describe, addition]
  | _ =>
      simp [describe, addition, Field.addLiterals, Field.addValidCharacters,
        Field.addFileExtensions]

theorem Effect.apply_aside (effect : Effect) (sampler : Sampler) (now : Moment)
    (parameters : List String) (draw : Int) (f : Field) (required : Bool)
    (messages : List String) :
    effect.apply sampler now parameters draw { f with required, messages } =
      (effect.apply sampler now parameters draw f).map fun after =>
        { after with required := required || (effect.addition parameters).required, messages } := by
  unfold apply
  cases effect.bounds parameters f.bounds with
  | error fault => rfl
  | ok bounds =>
      cases effect.writtenSample parameters now with
      | error fault => rfl
      | ok written =>
          refine congrArg Except.ok ?_
          rw [describe_aside effect parameters { f with type := effect.typeAfter f.type, bounds }]

namespace Reading

variable {s : Setting} {r other after : Reading} {call : Call}

theorem applyCall_alike (alike : Alike r other) (applied : r.applyCall s call = .ok after) :
    ∃ last, other.applyCall s call = .ok last ∧ Alike after last := by
  obtain ⟨rule, made, known, enough, effected, rfl⟩ := applyCall_cases applied
  obtain ⟨required, messages, rfl⟩ := alike
  rw [applyCall, known]
  dsimp only
  rw [if_neg (Nat.not_lt_of_le enough), Effect.apply_aside, effected]
  exact ⟨_, rfl, _, _, rfl⟩

theorem find?_required : ∃ rule, find? "required" = some rule ∧ rule.effect = .required :=
  ⟨_, rfl, rfl⟩

/-- A rule that is not listed says nothing but that the field is required. -/
theorem alike_of_unlisted (applied : r.applyCall s call = .ok after)
    (unlisted : isListed call.name = false) : Alike r after := by
  have named : call.name = "required" := by simpa [isListed] using unlisted
  obtain ⟨rule, made, known, _, effected, rfl⟩ := applyCall_cases applied
  obtain ⟨required, found, effect⟩ := find?_required
  rw [named, found] at known
  cases known
  rw [effect] at effected ⊢
  cases effected
  rw [unlisted, if_neg Bool.false_ne_true, List.append_nil]
  exact ⟨_, _, rfl⟩

/-- The calls with the messages that each of them added. -/
def told (s : Setting) (r : Reading) : List Call → List (Call × List String)
  | [] => []
  | call :: rest => match r.applyCall s call with
      | .ok next =>
          (call, next.field.messages.drop r.field.messages.length) :: told s next rest
      | .error _ => []

theorem told_cons {rest : List Call} (applied : r.applyCall s call = .ok after) :
    told s r (call :: rest) = (call, (call.sentence? s r.field).toList) :: told s after rest := by
  rw [told, applied]
  dsimp only
  rw [messages_of_applyCall applied, List.drop_left]

theorem messages_of_applyCalls {calls : List Call} (applied : r.applyCalls s calls = .ok after) :
    after.field.messages = r.field.messages ++ (told s r calls).flatMap Prod.snd := by
  induction calls generalizing r with
  | nil =>
      cases applied
      simp [told]
  | cons call rest induction =>
      obtain ⟨next, first, later⟩ := applyCalls_cons_iff.mp applied
      rw [induction later, messages_of_applyCall first, told_cons first, List.flatMap_cons,
        List.append_assoc]

/-- Rules that are not listed can be left away, with what they said. -/
theorem applyCalls_listed {calls : List Call} (alike : Alike r other)
    (applied : r.applyCalls s calls = .ok after) :
    ∃ last, other.applyCalls s (calls.filter fun call => isListed call.name) = .ok last ∧
      Alike after last ∧
      last.field.messages = other.field.messages ++
        ((told s r calls).filter fun said => isListed said.1.name).flatMap Prod.snd := by
  induction calls generalizing r other with
  | nil =>
      cases applied
      exact ⟨other, rfl, alike, by simp [told]⟩
  | cons call rest induction =>
      obtain ⟨next, first, later⟩ := applyCalls_cons_iff.mp applied
      rw [told_cons first]
      cases listed : isListed call.name with
      | false =>
          -- The call is left away, and the other reading stays where it is.
          have skipped := alike.of_both (alike_of_unlisted first listed)
          obtain ⟨last, applied, kept, said⟩ := induction skipped later
          refine ⟨last, ?_, kept, ?_⟩
          · rw [List.filter_cons_of_neg (by simp [listed]), applied]
          · rw [List.filter_cons_of_neg (by simp [listed]), said]
      | true =>
          obtain ⟨middle, applied, close⟩ := applyCall_alike alike first
          obtain ⟨last, finished, kept, said⟩ := induction close later
          refine ⟨last, ?_, kept, ?_⟩
          · rw [List.filter_cons_of_pos (by simpa using listed)]
            exact applyCalls_cons_iff.mpr ⟨middle, applied, finished⟩
          · rw [List.filter_cons_of_pos (by simpa using listed), said,
              messages_of_applyCall applied, alike.sentence s, List.flatMap_cons, List.append_assoc]

end Reading

/-! Lists of rules that were read. -/

theorem canonical_of_calls {given : Given} (written : Written given) {s : Setting}
    {r after : Reading} (applied : r.applyCalls s given.calls = .ok after) :
    ∀ call ∈ given.calls, call.Canonical := by
  intro call member
  obtain ⟨made, applied⟩ := Reading.exists_applyCalls_iff.mp ⟨after, applied⟩ call member
  obtain ⟨rule, _, known, _⟩ := Reading.applyCall_cases applied
  obtain ⟨item, among, called⟩ := List.mem_filterMap.mp member
  obtain ⟨text, token, listed, rfl⟩ := written.of_mem item among
  rw [Item.call?] at called
  split at called
  · cases called
  · cases called
    exact Call.canonical_of_mem listed known

theorem calls_toToken {calls : List Call} (canonical : ∀ call ∈ calls, call.Canonical) :
    (Given.list ((calls.map Call.toToken).map .text)).calls = calls := by
  rw [calls_texts]
  induction calls with
  | nil => rfl
  | cons call rest induction =>
      have here := canonical call (by simp)
      have later := induction fun other member => canonical other (List.mem_cons_of_mem _ member)
      rw [List.map_cons, List.flatMap_cons, here.tokens_toToken, List.singleton_append,
        List.filterMap_cons, here.call?_toToken]
      exact congrArg (List.cons call) later

theorem listing_eq (calls : List Call) :
    calls.flatMap Call.listing =
      ((calls.filter fun call => Reading.isListed call.name).map Call.toToken).map .text := by
  induction calls with
  | nil => rfl
  | cons call rest induction =>
      rw [List.flatMap_cons, induction, Call.listing]
      cases listed : Reading.isListed call.name <;> simp [listed]

theorem any_required (calls : List Call) :
    (calls.any fun call => call.addition.required) = true ↔
      ((calls.filter fun call => Reading.isListed call.name).any fun call =>
        call.addition.required) = true ∨ ∃ call ∈ calls, call.name = "required" := by
  obtain ⟨rule, known, effect⟩ := Reading.find?_required
  have demands : ∀ call : Call, call.name = "required" → call.addition.required = true := by
    intro call named
    rw [Call.addition, named, known]
    dsimp only
    rw [effect]
    rfl
  simp only [List.any_eq_true, List.mem_filter, Reading.isListed, bne_iff_ne]
  constructor
  · rintro ⟨call, member, needed⟩
    by_cases named : call.name = "required"
    · exact .inr ⟨call, member, named⟩
    · exact .inl ⟨call, ⟨member, named⟩, needed⟩
  · rintro (⟨call, ⟨member, _⟩, needed⟩ | ⟨call, member, named⟩)
    · exact ⟨call, member, needed⟩
    · exact ⟨call, member, demands call named⟩

/-- The rules that are listed for a field say all that was said of it. Only what rules named
`required` say is missing from them. -/
theorem reread_rules {s : Setting} {name : String} {given : Given} {draw : Int}
    {first : Reading} (written : Written given)
    (succeeds : read s name given draw = (first, none)) :
    ∃ (texts : List String) (again : Reading), first.field.rules = texts.map .text ∧
      read s name (.list (texts.map .text)) draw = (again, none) ∧
      Alike first again ∧
      (first.field.required = true ↔
        again.field.required = true ∨ ∃ call ∈ given.calls, call.name = "required") ∧
      ∃ told, told = Reading.told s { field := { name }, draw } given.calls ∧
        first.field.messages = told.flatMap Prod.snd ∧
        again.field.messages =
          (told.filter fun said => said.1.name != "required").flatMap Prod.snd := by
  have applied := (read_written_iff written).mp succeeds
  have canonical := canonical_of_calls written applied
  obtain ⟨again, reapplied, alike, said⟩ := Reading.applyCalls_listed (Alike.refl _) applied
  have gathered := Reading.gathered_of_applyCalls applied
  have regathered := Reading.gathered_of_applyCalls reapplied
  refine ⟨(given.calls.filter fun call => Reading.isListed call.name).map Call.toToken, again,
    ?_, ?_, alike, ?_, _, rfl, ?_, ?_⟩
  · rw [gathered.rules, listing_eq]
    rfl
  · rw [read_written_iff (written_texts _), calls_toToken, reapplied]
    intro call member
    exact canonical call (List.mem_filter.mp member).1
  · rw [gathered.required, regathered.required, Bool.false_or, Bool.false_or]
    exact any_required given.calls
  · exact Reading.messages_of_applyCalls applied
  · exact said

def nestedRules : Given :=
  .list [.text " Required |in:a, b", .list [.text "regex:/^(a|b):,$/", .list [.text "minDigits:2"]]]

theorem reread_nestedRules :
    Written nestedRules ∧ (read plainSetting "code" nestedRules 3).2 = none ∧
      ∃ again,
        read plainSetting "code"
            (.list (["in:a,b", "regex:/^(a|b):,$/", "min_digits:2"].map .text)) 3 =
          (again, none) ∧
        Alike (read plainSetting "code" nestedRules 3).1 again ∧
        (read plainSetting "code" nestedRules 3).1.field.messages =
          "The code field is required." :: again.field.messages := by
  have written : Written nestedRules := by
    refine .list ?_
    simp only [List.forall_mem_cons]
    refine ⟨.text _, .list ?_, nofun⟩
    simp only [List.forall_mem_cons]
    refine ⟨.text _, .list ?_, nofun⟩
    simp only [List.forall_mem_cons]
    exact ⟨.text _, nofun⟩
  have succeeds : (read plainSetting "code" nestedRules 3).2 = none :=
    Option.isNone_iff_eq_none.mp (by decide +kernel)
  have listed : (read plainSetting "code" nestedRules 3).1.field.rules =
      ["in:a,b", "regex:/^(a|b):,$/", "min_digits:2"].map .text := by decide +kernel
  obtain ⟨texts, again, rules, reread, alike, _, told, run, first, second⟩ :=
    reread_rules written (read_eq_of_none succeeds)
  have same : texts = ["in:a,b", "regex:/^(a|b):,$/", "min_digits:2"] :=
    List.map_injective_iff.mpr (fun _ _ => RuleText.text.inj) (rules.symm.trans listed)
  refine ⟨written, succeeds, again, same ▸ reread, alike, ?_⟩
  rw [first, second, run]
  decide +kernel

end RouteDocs.Rule
