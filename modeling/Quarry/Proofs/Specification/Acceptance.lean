import Quarry.Proofs.Criterion
import Quarry.Proofs.Specification.Construction

/-!
# Which filters become specifications

A filter is checked as a whole, and a specification is made of it leaf by leaf, where each criterion
is checked once more. Both go from left to right and through all criteria, also through those that
no evaluation would get to. So they agree: each filter whose criteria make sense becomes the
specification that gives it back, and otherwise both report the fault of the leftmost criterion that
makes none (`Specification.ofFilter_acceptsValid`).
-/

namespace Quarry

/-- A filter passes its check just if every criterion makes sense, and otherwise the leftmost fault
is reported. -/
theorem Filter.settledByAll_validate (f : Filter) :
    SettledByAll Criterion.MakesSense Criterion.Fault f.leaves f.validate :=
  Formula.settledByAll_check Criterion.settledBy_validate f

namespace Specification

variable {α : Type}

/-- A filter `f` that passes its check becomes a specification, of which it is got back. The other
ones have a leftmost criterion that makes no sense, and both the check and the specification report
the fault of that one. -/
theorem ofFilter_acceptsValid (f : Filter) :
    (∃ s : Specification α, ofFilter f = .ok s ∧ s.toFilter? = some f ∧ f.validate = .ok () ∧
        ∀ c ∈ f.leaves, c.MakesSense) ∨
      ∃ e, (ofFilter f : Except ArgumentError (Specification α)) = .error e ∧
        f.validate = .error e ∧ FirstFault Criterion.MakesSense Criterion.Fault f.leaves e := by
  have hchecked := f.settledByAll_validate
  rcases hchecked.complete with hall | ⟨e, hfault⟩
  · obtain ⟨⟨⟩, hvalid⟩ := hchecked.ok hall
    obtain ⟨s, hs⟩ := (exists_ofFilter_iff (α := α)).mpr hvalid
    exact Or.inl ⟨s, hs, toFilter?_of_ofFilter hs, hvalid, hall⟩
  · have hinvalid := hchecked.error e hfault
    exact Or.inr ⟨e, ofFilter_of_not_validate hinvalid, hinvalid, hfault⟩

/-- A criterion counts although no evaluation gets to it. -/
example :
    let f : Filter := .or (.const true) (.leaf (.unary .eq "age"))
    (ofFilter f : Except ArgumentError (Specification Json)) = .error (.operandMissing .eq "age") ∧
      ∀ document : Json, f.evaluate document = .ok true :=
  ⟨rfl, fun _ => rfl⟩

end Specification

end Quarry
