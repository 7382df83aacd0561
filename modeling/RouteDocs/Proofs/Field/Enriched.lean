import RouteDocs.Field.Example
import RouteDocs.Proofs.Outcome

/-!
Examples are only added. A field that has one stays as it is, and nothing but the example of another
field changes. A null among the literals is no example: where it comes first, the field stays
without one, and nothing is drawn for it.
-/

namespace RouteDocs.Field

/-- The guess is no null, whatever is drawn. -/
def Guess.Shows : Guess → Prop
  | .written value => value ≠ .null
  | .drawn value => ∀ draw, value draw ≠ .null

section

variable {s : Sampler} {b : Bounds} {f : Field} {guess_ : Guess}

theorem integerGuess_shows (guessed : integerGuess s b = .ok guess_) : guess_.Shows := by
  obtain ⟨low, _, guessed⟩ := Outcome.ok_of_bind guessed
  obtain ⟨high, _, guessed⟩ := Outcome.ok_of_bind guessed
  cases guessed
  intro draw
  exact Value.noConfusion

theorem numberGuess_shows (guessed : numberGuess s b = .ok guess_) : guess_.Shows := by
  unfold numberGuess at guessed
  dsimp only at guessed
  split at guessed
  · obtain ⟨low, _, guessed⟩ := Outcome.ok_of_bind guessed
    obtain ⟨high, _, guessed⟩ := Outcome.ok_of_bind guessed
    cases guessed
    intro draw
    exact Value.noConfusion
  · obtain ⟨low, _, guessed⟩ := Outcome.ok_of_bind guessed
    cases guessed
    exact Value.noConfusion

theorem textGuess_shows (guessed : textGuess s f = .ok guess_) : guess_.Shows := by
  obtain ⟨length, _, guessed⟩ := Outcome.ok_of_bind guessed
  split at guessed
  · cases guessed
    exact Value.noConfusion
  · split at guessed
    · cases guessed
      intro draw
      exact Value.noConfusion
    · cases guessed
      intro draw
      exact Value.noConfusion

/-- Only a literal can be a null. -/
theorem guess_cases (guessed : f.guess s = .ok guess_) :
    (∃ literal rest, f.literals = some (literal :: rest) ∧ guess_ = .written literal) ∨
      guess_.Shows := by
  unfold guess at guessed
  split at guessed
  · rename_i literal rest given
    cases guessed
    exact .inl ⟨literal, rest, given, rfl⟩
  · right
    split at guessed
    · cases guessed
      exact Value.noConfusion
    · exact integerGuess_shows guessed
    · exact numberGuess_shows guessed
    · cases guessed
      exact Value.noConfusion
    · cases guessed
      exact Value.noConfusion
    · cases guessed
      intro draw
      exact Value.noConfusion
    · exact textGuess_shows guessed

theorem sampleOf_eq_none_iff {value : Value} : sampleOf value = none ↔ value = .null := by
  cases value <;> simp [sampleOf]

theorem sampleOf_of_ne {value : Value} (some_ : value ≠ .null) : sampleOf value = some value := by
  cases value <;> first | rfl | exact absurd rfl some_

theorem sampleOf_drawn {value : Int → Value} (guessed : f.guess s = .ok (.drawn value))
    (draw : Int) : sampleOf (value draw) = some (value draw) := by
  rcases guess_cases guessed with ⟨_, _, _, written⟩ | shows
  · cases written
  · exact sampleOf_of_ne (shows draw)

end

variable {s : Sampler} {f g : Field} {draw next : Int}

theorem enrich_of_some {value : Value} (given : f.sample = some value) (s : Sampler) (draw : Int) :
    f.enrich s draw = .ok (f, draw) := by
  rw [enrich, given]

/-- A null that comes first is passed over without a draw. -/
theorem enrich_of_null {rest : List Value} (bare : f.sample = none)
    (first : f.literals = some (.null :: rest)) (s : Sampler) (draw : Int) :
    f.enrich s draw = .ok (f, draw) := by
  have guessed : f.guess s = .ok (.written .null) := by rw [guess, first]
  have unchanged : { f with sample := sampleOf .null } = f := by
    rw [← show f.sample = sampleOf .null from bare]
  rw [enrich, bare, guessed]
  exact congrArg (fun field => Except.ok (field, draw)) unchanged

theorem enrich_of_none (bare : f.sample = none) (enriched : f.enrich s draw = .ok (g, next)) :
    g = { f with sample := g.sample } ∧
      (g.sample = none → ∃ rest, f.literals = some (.null :: rest)) := by
  rw [enrich, bare] at enriched
  obtain ⟨guess, guessed, enriched⟩ := Outcome.ok_of_bind enriched
  have either := guess_cases guessed
  cases guess with
  | written value =>
      cases enriched
      refine ⟨rfl, fun blank => ?_⟩
      rcases either with ⟨literal, rest, given, written⟩ | shows
      · cases written
        rw [sampleOf_eq_none_iff.mp blank] at given
        exact ⟨rest, given⟩
      · exact absurd (sampleOf_eq_none_iff.mp blank) shows
  | drawn value =>
      cases enriched
      refine ⟨rfl, fun blank => ?_⟩
      cases (sampleOf_drawn guessed draw).symm.trans blank

/-- Nothing but the example changes, and that only if there was none. Another time nothing changes
and nothing is drawn, whatever source there is to draw from. -/
theorem enrich_again (enriched : f.enrich s draw = .ok (g, next)) :
    g = { f with sample := g.sample } ∧
      (∀ value, f.sample = some value → g.sample = some value ∧ next = draw) ∧
        ∀ other later, g.enrich other later = .ok (g, later) := by
  cases given : f.sample with
  | some value =>
      rw [enrich_of_some given] at enriched
      cases enriched
      refine ⟨rfl, ?_, enrich_of_some given⟩
      rintro _ ⟨⟩
      exact ⟨given, rfl⟩
  | none =>
      obtain ⟨same, blank⟩ := enrich_of_none given enriched
      refine ⟨same, nofun, ?_⟩
      cases made : g.sample with
      | some value => exact enrich_of_some made
      | none =>
          obtain ⟨rest, first⟩ := blank made
          have literals : g.literals = f.literals := by rw [same]
          exact enrich_of_null made (literals.trans first)

def age : Field :=
  { name := "age", type := some .integer, bounds := { min := some (.int 18) } }

theorem enrich_again_age :
    age.enrich (.counting "en_US") 3 = .ok ({ age with sample := some (.int 21) }, 4) ∧
      { age with sample := some (.int 21) }.enrich (.counting "de_DE") (-7) =
        .ok ({ age with sample := some (.int 21) }, -7) := by
  have enriched :
      age.enrich (.counting "en_US") 3 = .ok ({ age with sample := some (.int 21) }, 4) := rfl
  obtain ⟨_, _, again⟩ := enrich_again enriched
  exact ⟨enriched, again (.counting "de_DE") (-7)⟩

end RouteDocs.Field
