import RequestDispatch.Handler.HandlerMethod
import RequestDispatch.Proofs.Handler.Shadowing

/-! # Beans that were asked for

A container keeps the lazy bean that it created, so whoever asks again gets the same bean. -/
namespace RequestDispatch

namespace Containers

theorem bean_again {c c' : Containers} {level : Nat} {name : String} {b : Bean}
    (h : c.bean level name = (.ok b, c')) :
    (c'.bean level name).1 = .ok b := by
  rcases bean_cases c level name with ⟨-, hmissing⟩ | ⟨owner, d, hnearest, hsupplied⟩
  · rw [hmissing] at h
    cases h
  · rw [h] at hsupplied
    cases hsupplied with
    | held hheld => rw [h]
    | created hcall => exact congrArg Prod.fst (((hnearest.countCall _).keep _).bean_of_held rfl)

end Containers

theorem HandlerMethod.resolve_again {h h' : HandlerMethod} {c c' : Containers}
    (hr : h.resolve c = (.ok h', c')) : (h.resolve c').1 = .ok h' := by
  unfold resolve at hr ⊢
  cases hsource : h.source with
  | object b =>
    rw [hsource] at hr
    cases hr
    rfl
  | bean name =>
    rw [hsource] at hr
    dsimp only at hr ⊢
    split at hr
    · next b c₁ hb =>
      cases hr
      have hagain := Containers.bean_again hb
      split
      · next hb' =>
        rw [hb'] at hagain
        cases hagain
        rfl
      · next hb' =>
        rw [hb'] at hagain
        cases hagain
    · cases hr

end RequestDispatch
