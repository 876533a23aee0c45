import EdgePlane.Reconcile.Controller
import EdgePlane.Simulation.ApiServer
import Mathlib.Data.List.Chain

/-!
# Errors that are misread

Whether a password was wrong is told from the text of an error, whatever call the error is of. That is too
coarse: an error of the registration, which has nothing to do with a password, is taken for a refused login if
its text happens to hold the words. The text of a server's error holds the URL that was asked, with the
namespace in it, so this depends on the name of the namespace. One in which errors are misread has a blank,
which no cluster admits.
-/

namespace EdgePlane.Reconcile

open Simulation Text

/-- Whether a registration that is broken reads as a wrong password, and not as a user who is known. -/
def misreads (s : ApiServer) (url : String) : Bool :=
  let e := ApiServer.serverError url "/user/signup"
  s.signUpBroken && (!e.isAccountExists && e.isInvalidCredentials)

/-- Whether a text in lower case has no blank at its start or after a `d`. A text that reads as a wrong
password has one, and no text that is put together of harmless ones. -/
def Harmless (s : String) : Prop := ('d' :: (lower s).toList).IsChain fun a b => a = 'd' → b ≠ ' '

instance (s : String) : Decidable (Harmless s) :=
  inferInstanceAs (Decidable (List.IsChain (fun a b => a = 'd' → b ≠ ' ') _))

theorem Harmless.append {s t : String} (hs : Harmless s) (ht : Harmless t) : Harmless (s ++ t) := by
  obtain ⟨start, rest⟩ := List.isChain_cons.1 ht
  rw [Harmless, toList_lower_append, ← List.cons_append]
  exact List.IsChain.append hs rest fun _ _ b hb _ => start b hb rfl

theorem harmless_of_no_blank {s : String} (plain : ' ' ∉ s.toList) : Harmless s := by
  have apart : ∀ b ∈ (lower s).toList, b ≠ ' ' := by
    rintro b hb rfl
    exact plain (blank_mem_of_mem_lower hb)
  refine List.Pairwise.isChain (List.pairwise_cons.2 ⟨fun b hb _ => apart b hb, ?_⟩)
  exact List.pairwise_of_forall_mem_list fun _ _ b hb _ => apart b hb

theorem isInvalidCredentials_of_harmless {e : ApiError} (h : Harmless e.message) :
    e.isInvalidCredentials = false := by
  refine Bool.eq_false_iff.2 fun reads => ?_
  have gap : ['d', ' '] <:+: (lower e.message).toList :=
    .trans (by decide +kernel) (occursIn_iff.1 reads)
  have apart := List.IsChain.infix h (gap.trans (List.suffix_cons _ _).isInfix)
  exact absurd apart (by decide)

variable {ns : String}

theorem harmless_internalUrl (plain : ' ' ∉ ns.toList) : Harmless (internalUrl ns) := by
  have scheme : Harmless "http://" := by decide +kernel
  have name : Harmless (Controller.name ++ ".") := by decide +kernel
  have domain : Harmless ".svc" := by decide +kernel
  have colon : Harmless ":" := by decide +kernel
  have port : Harmless (decimalInt Controller.apiPort.toInt) := by decide +kernel
  have path : Harmless Net.apiPath := by decide +kernel
  have host : Harmless (internalHost ns) := (name.append (harmless_of_no_blank plain)).append domain
  exact (((scheme.append host).append colon).append port).append path

/-- In a namespace without blanks the error of a registration is not misread. -/
theorem misreads_of_no_blank (plain : ' ' ∉ ns.toList) (s : ApiServer) :
    misreads s (internalUrl ns) = false := by
  have start : Harmless ("ECN API error (" ++ decimal 500 ++ "): ") := by decide +kernel
  have path : Harmless "/user/signup" := by decide +kernel
  have ending : Harmless ": internal server error" := by decide +kernel
  have detail := ((harmless_internalUrl plain).append path).append ending
  have unread : (ApiServer.serverError (internalUrl ns) "/user/signup").isInvalidCredentials = false :=
    isInvalidCredentials_of_harmless (start.append detail)
  simp [misreads, unread]

end EdgePlane.Reconcile
