import Protogen.Proofs.FileTree

/-!
# Where paths lead

* `foldl_follow_names`: names other than `..` lead downwards, one after the other.
* `destination_normalize`: a path leads where it did when every `..` is resolved.
* `destination_join` follows a path from where another one leads, `destination_parent` leaves out the
  last name.
-/

set_option autoImplicit false

namespace Protogen.FileTree

variable {t : FileTree} {l : Location} {p q : Path}

theorem foldl_follow_names {names : List String} (h : ".." ∉ names) (l : Location) :
    names.foldl follow l = l ++ names := by
  induction names generalizing l with
  | nil => exact (List.append_nil l).symm
  | cons name names ih =>
    obtain ⟨hname, hnames⟩ := not_or.1 (List.mem_cons.not.1 h)
    rw [List.foldl_cons, ih hnames, follow, if_neg (Ne.symm hname), List.append_assoc]
    rfl

/-- One more name on a stack of names leads one name further; a `..` that is left out at a root leads
nowhere else. -/
theorem foldl_follow_push {anchored : Bool} (h : anchored = true → l = []) (stack : List String)
    (name : String) :
    (Path.push anchored stack name).reverse.foldl follow l =
      follow (stack.reverse.foldl follow l) name := by
  by_cases hname : name = ".."
  · subst hname
    unfold Path.push
    rw [if_pos rfl]
    match stack with
    | [] =>
      cases anchored with
      | false => rfl
      | true =>
        rw [h rfl]
        rfl
    | top :: rest =>
      dsimp only
      split
      · rw [List.reverse_cons, List.foldl_append]
        rfl
      · rename_i htop
        rw [List.reverse_cons, List.foldl_append, List.foldl_cons, List.foldl_nil]
        conv_rhs => rw [follow, follow, if_neg htop, if_pos rfl, List.dropLast_concat]
  · unfold Path.push
    rw [if_neg hname, List.reverse_cons, List.foldl_append]
    rfl

/-- The names that are left when every `..` is resolved lead to the same place. -/
theorem destination_normalize (t : FileTree) (p : Path) :
    t.destination p.normalize = t.destination p := by
  have horigin : p.isAbsolute = true → t.origin p = [] := fun h => if_pos h
  have hfold : ∀ parts stack : List String,
      (parts.foldl (Path.push p.isAbsolute) stack).reverse.foldl follow (t.origin p) =
        parts.foldl follow (stack.reverse.foldl follow (t.origin p)) := by
    intro parts
    induction parts with
    | nil => exact fun stack => rfl
    | cons name parts ih =>
      intro stack
      rw [List.foldl_cons, List.foldl_cons, ih, foldl_follow_push horigin]
  exact hfold p.parts []

theorem destination_join (t : FileTree) (p : Path) (hq : q.isAbsolute = false) :
    t.destination (p.join q) = q.parts.foldl follow (t.destination p) := by
  rw [Path.join, hq]
  exact List.foldl_append

/-- A path with a name at its end leads to a place in the directory to which the names before lead. -/
theorem destination_parent {parts : List String} {name : String} (hp : p.parts = parts ++ [name])
    (hname : name ≠ "..") (t : FileTree) :
    t.destination p = t.destination p.parent ++ [name] := by
  have hparent : t.destination p.parent = parts.foldl follow (t.origin p) := by
    rw [destination, Path.parent, hp, List.dropLast_concat]
    rfl
  rw [hparent, destination, hp, List.foldl_append, List.foldl_cons, List.foldl_nil, follow,
    if_neg hname]

end Protogen.FileTree
