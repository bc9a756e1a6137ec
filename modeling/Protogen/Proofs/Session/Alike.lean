import Protogen.Proofs.FileTree.Room
import Protogen.Proofs.Session

/-!
# Sessions on trees that are alike

A session follows another one if it does on every tree what the other does on a tree with the same
nodes. The steps of a session look at nodes only, so a session follows itself if it is put together
from them.

* `Follows.bind`, `Follows.ite` and `Follows.mapM` put sessions together.
* `follows_demand`, `follows_change` and the like are the steps.
* `Import.follows_resolveFile` is the resolution of the imports of a file.
-/

set_option autoImplicit false

namespace Protogen

open FileTree

namespace Session

variable {α β : Type}

/-- Where the first session goes well, the second one does so on every tree with the same nodes, with
the same result and the same nodes afterwards. -/
def Follows (x y : Session α) : Prop :=
  ∀ w v a w', SameNodes w.files v.files → x.run w = (.ok a, w') →
    ∃ v', y.run v = (.ok a, v') ∧ SameNodes w'.files v'.files

namespace Follows

variable {x y : Session α} {k k' : α → Session β}

theorem bind (hxy : Follows x y) (hk : ∀ a, Follows (k a) (k' a)) :
    Follows (x >>= k) (y >>= k') := by
  intro w v b w' h hrun
  obtain ⟨a, next, hfirst, hrest⟩ := run_bind_eq_ok.1 hrun
  obtain ⟨next', hfirst', hnext⟩ := hxy w v a next h hfirst
  obtain ⟨v', hrest', hv'⟩ := hk a next next' b w' hnext hrest
  exact ⟨v', run_bind_eq_ok.2 ⟨a, next', hfirst', hrest'⟩, hv'⟩

theorem get_bind {k k' : Workspace → Session β}
    (hk : ∀ w v, SameNodes w.files v.files → Follows (k w) (k' v)) :
    Follows (get >>= k) (get >>= k') := by
  intro w v b w' h hrun
  obtain ⟨_, _, hget, hrest⟩ := run_bind_eq_ok.1 hrun
  cases hget
  obtain ⟨v', hrest', hv'⟩ := hk w v h w v b w' h hrest
  exact ⟨v', run_bind_eq_ok.2 ⟨v, v, rfl, hrest'⟩, hv'⟩

theorem ite {condition : Prop} [Decidable condition] {x' y' : Session α} (hxy : Follows x y)
    (hxy' : Follows x' y') :
    Follows (if condition then x else x') (if condition then y else y') := by
  split
  · exact hxy
  · exact hxy'

theorem mapM {f : α → Session β} (hf : ∀ a, Follows (f a) (f a)) (items : List α) :
    Follows (items.mapM f) (items.mapM f) := by
  induction items with
  | nil =>
    intro w v a w' h hrun
    cases hrun
    exact ⟨v, rfl, h⟩
  | cons a items ih =>
    rw [List.mapM_cons]
    refine (hf a).bind fun b => ih.bind fun rest => ?_
    intro w v results w' h hrun
    cases hrun
    exact ⟨v, rfl, h⟩

end Follows

theorem follows_pure (a : α) : Follows (pure a) (pure a) := by
  intro w v b w' h hrun
  cases hrun
  exact ⟨v, rfl, h⟩

theorem follows_demand (r : Except Failure α) : Follows (demand r) (demand r) := by
  intro w v a w' h hrun
  obtain ⟨hr, rfl⟩ := run_demand_eq_ok.1 hrun
  exact ⟨v, run_demand_eq_ok.2 ⟨hr, rfl⟩, h⟩

theorem follows_note (records records' : List Record) : Follows (note records) (note records') := by
  intro w v _ w' h hrun
  obtain rfl := run_note_eq_ok.1 hrun
  exact ⟨_, run_note .., h⟩

theorem follows_isPresent (p : Path) : Follows (isPresent p) (isPresent p) := by
  intro w v found w' h hrun
  obtain ⟨rfl, -⟩ := of_run_isPresent hrun
  cases hfault : w.files.lookFault? p with
  | some fault =>
    rw [run_isPresent_error hfault] at hrun
    cases hrun
  | none =>
    rw [run_isPresent hfault] at hrun
    cases hrun
    refine ⟨v, ?_, h⟩
    rw [run_isPresent (h.sameShape.lookFault? p ▸ hfault), h.sameShape.isPresent]

theorem follows_readText (p : Path) : Follows (readText p) (readText p) := by
  intro w v text w' h hrun
  obtain ⟨rfl, htext⟩ := of_run_readText hrun
  refine ⟨v, ?_, h⟩
  show (failing Failure.file (v.files.readText p), v) = _
  rw [h.readText, htext]
  rfl

theorem follows_writeText (p : Path) (content : String) :
    Follows (writeText p content) (writeText p content) := by
  intro w v _ w' h hrun
  obtain ⟨files, hfiles, hsame⟩ := h.modifyText (files_of_run_change hrun)
  exact ⟨_, run_change hfiles, hsame⟩

theorem follows_makeDirectories (p : Path) : Follows (makeDirectories p) (makeDirectories p) := by
  intro w v _ w' h hrun
  obtain ⟨files, hfiles, hsame⟩ := h.makeDirectories (files_of_run_makeDirectories hrun)
  exact ⟨_, run_makeDirectories hfiles, hsame⟩

end Session

namespace Import

open Session

theorem follows_resolveFile (root : Path) (modules : List Module) (file : Path) :
    Follows (resolveFile root modules file) (resolveFile root modules file) := by
  unfold resolveFile
  refine (follows_note _ _).bind fun _ => (follows_readText file).bind fun text => ?_
  refine Follows.get_bind fun w v h => ?_
  dsimp only
  rw [h.sameShape.resolverFor]
  refine (follows_note _ _).bind fun _ => (follows_demand _).bind fun resolved => ?_
  exact .ite (follows_pure _) ((follows_writeText file resolved).bind fun _ => follows_pure _)

end Import

end Protogen
