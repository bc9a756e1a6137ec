import Protogen.FileTree
import Protogen.Proofs.Failure

/-!
# What is stored in a file tree

* `content` is the text at a location, `destination` the location that a path leads to in a tree
  in which it leads anywhere.
* `Adds` compares two trees by the texts in them; it composes along the steps of a session.
* `adds_of_makeDirectories`: new directories leave every text as it is.
  `modifyText_eq_ok_iff`, `content_of_modifyText` and `adds_of_appendText`: a text that is stored
  changes the one at its destination.
* `stored_writeText`: a text that takes the place of another one is found where it was stored.
-/

set_option autoImplicit false

namespace Protogen.FileTree

variable {t u v : FileTree} {l k : Location} {p : Path}

/-- The text at a location, the empty one if there is no file. -/
def content (t : FileTree) (l : Location) : String :=
  match t.find? l with
  | some (.file text) => text
  | _ => ""

/-- Where a path leads if each of its names but the last is that of a directory. -/
def destination (t : FileTree) (p : Path) : Location := p.parts.foldl follow (t.origin p)

theorem content_of_file {text : String} (h : t.find? l = some (.file text)) :
    t.content l = text := by
  rw [content, h]

theorem content_of_none (h : t.find? l = none) : t.content l = "" := by
  rw [content, h]

theorem destination_eq_of_workingDirectory (h : u.workingDirectory = t.workingDirectory)
    (p : Path) : u.destination p = t.destination p := by
  simp only [destination, origin, h]

theorem walk_eq_ok {names : List String} (h : t.walk l names = .ok k) :
    k = names.foldl follow l := by
  induction names generalizing l with
  | nil =>
    cases h
    rfl
  | cons name names ih =>
    rw [walk] at h
    split at h
    · cases h
    · cases h
    · split at h
      · cases h
      · exact ih h

theorem locate_eq_ok (h : t.locate p = .ok l) : l = t.destination p := by
  unfold locate at h
  split at h
  · cases h
  · exact walk_eq_ok h

/-! ## Nodes -/

theorem lookup_setNode (l k : Location) (node : Node) (nodes : List (Location × Node)) :
    (setNode l node nodes).lookup k = if k = l then some node else nodes.lookup k := by
  induction nodes with
  | nil => by_cases hk : k = l <;> simp [setNode, List.lookup_cons, hk, beq_false_of_ne]
  | cons n nodes ih =>
    obtain ⟨m, old⟩ := n
    rw [setNode]
    by_cases hm : m = l
    · subst hm
      by_cases hk : k = m <;> simp [List.lookup_cons, hk, beq_false_of_ne]
    · rw [if_neg hm, List.lookup_cons, List.lookup_cons, ih]
      by_cases hk : k = m
      · simp [hk, hm]
      · simp [beq_false_of_ne hk]

theorem find?_put (t : FileTree) (node : Node) (hl : l ≠ []) :
    (t.put l node).find? k = if k = l then some node else t.find? k := by
  unfold find? put
  by_cases hk : k = []
  · rw [if_pos hk, if_pos hk, if_neg]
    rw [hk]
    exact hl.symm
  · rw [if_neg hk, if_neg hk]
    exact lookup_setNode l k node t.nodes

/-- A node that replaces another changes the text at its location. -/
theorem content_put (t : FileTree) (node : Node) (hl : l ≠ []) :
    (t.put l node).content k =
      if k = l then (match node with | .file text => text | .directory => "") else t.content k := by
  unfold content
  rw [find?_put t node hl]
  by_cases hk : k = l
  · rw [if_pos hk, if_pos hk]
    cases node <;> rfl
  · rw [if_neg hk, if_neg hk]

/-- Only at the root there is a directory in every tree. -/
theorem ne_nil_of_find?_ne (h : t.find? l ≠ some .directory) : l ≠ [] := by
  rintro rfl
  exact h rfl

/-! ## Trees with more text -/

/-- The second tree has the texts of the first one, with these texts behind them. -/
structure Adds (t u : FileTree) (added : Location → String) : Prop where
  workingDirectory : u.workingDirectory = t.workingDirectory
  content : ∀ l, u.content l = t.content l ++ added l

namespace Adds

variable {added more : Location → String}

theorem refl (t : FileTree) : Adds t t fun _ => "" := ⟨rfl, fun l => by simp⟩

theorem trans (h : Adds t u added) (h' : Adds u v more) :
    Adds t v fun l => added l ++ more l :=
  ⟨h'.workingDirectory.trans h.workingDirectory, fun l => by
    rw [h'.content, h.content, String.append_assoc]⟩

theorem congr (h : Adds t u added) (heq : ∀ l, more l = added l) : Adds t u more :=
  ⟨h.workingDirectory, fun l => by rw [h.content, heq]⟩

theorem destination (h : Adds t u added) (p : Path) : u.destination p = t.destination p :=
  destination_eq_of_workingDirectory h.workingDirectory p

/-- Steps that add nothing. -/
theorem trans_none (h : Adds t u fun _ => "") (h' : Adds u v fun _ => "") :
    Adds t v fun _ => "" :=
  (h.trans h').congr fun _ => by simp

end Adds

/-! ## Directories -/

theorem adds_of_makeDirectory (h : t.makeDirectory p = .ok u) : Adds t u fun _ => "" := by
  obtain ⟨l, -, h⟩ := bind_eq_ok.1 h
  cases hfind : t.find? l with
  | some node =>
    simp only [hfind] at h
    cases h
  | none =>
    have hl : l ≠ [] := ne_nil_of_find?_ne (t := t) (by simp [hfind])
    simp only [hfind] at h
    cases h
    refine ⟨rfl, fun k => ?_⟩
    rw [content_put t _ hl]
    by_cases hk : k = l
    · rw [if_pos hk, hk, content_of_none hfind]
      rfl
    · rw [if_neg hk]
      simp

/-- Whatever becomes of it, the creation of directories leaves the texts as they are. -/
theorem adds_of_makeAll {anchor : Anchor} {names : List String} {r : Except FileFault Unit}
    (h : makeAll anchor names t = (r, u)) : Adds t u fun _ => "" := by
  induction names generalizing t u r with
  | nil =>
    cases h
    exact .refl t
  | cons name above ih =>
    unfold makeAll at h
    dsimp only at h
    split at h
    · rename_i made hmade
      cases h
      exact adds_of_makeDirectory hmade
    · -- the directory above has to be made first
      rcases habove : makeAll anchor above t with ⟨result, made⟩
      rw [habove] at h
      have hfirst := ih habove
      cases result with
      | error fault =>
        cases h
        exact hfirst
      | ok _ =>
        dsimp only at h
        split at h
        · rename_i next hnext
          cases h
          exact hfirst.trans_none (adds_of_makeDirectory hnext)
        · cases h
          exact hfirst
    · cases h
      exact .refl t

theorem adds_of_makeDirectories {r : Except FileFault Unit} (h : t.makeDirectories p = (r, u)) :
    Adds t u fun _ => "" :=
  adds_of_makeAll h

/-! ## Texts -/

/-- A text is stored where a path leads, unless a directory is there. -/
theorem modifyText_eq_ok_iff {f : String → String} :
    t.modifyText p f = .ok u ↔
      ∃ l, t.locate p = .ok l ∧ t.find? l ≠ some .directory ∧
        u = t.put l (.file (f (t.content l))) := by
  unfold modifyText
  rw [bind_eq_ok]
  refine exists_congr fun l => and_congr_right fun _ => ?_
  rcases hfind : t.find? l with _ | content | _
  · rw [content_of_none hfind]
    simp [pure, Except.pure, eq_comm]
  · rw [content_of_file hfind]
    simp [pure, Except.pure, eq_comm]
  · simp [throw, throwThe, MonadExceptOf.throw]

/-- A text that is stored takes the place of the one at its destination. -/
theorem content_of_modifyText {f : String → String} (h : t.modifyText p f = .ok u) :
    u.workingDirectory = t.workingDirectory ∧
      ∀ l, u.content l = if l = t.destination p then f (t.content l) else t.content l := by
  obtain ⟨l, hl, hfind, rfl⟩ := modifyText_eq_ok_iff.1 h
  rw [← locate_eq_ok hl]
  refine ⟨rfl, fun k => ?_⟩
  rw [content_put t _ (ne_nil_of_find?_ne hfind)]
  by_cases hk : k = l
  · rw [if_pos hk, if_pos hk, hk]
  · rw [if_neg hk, if_neg hk]

theorem stored_eq_ok {text : String} :
    t.stored p = .ok text ↔ ∃ l, t.locate p = .ok l ∧ t.find? l = some (.file text) := by
  unfold stored
  rw [bind_eq_ok]
  refine exists_congr fun l => and_congr_right fun _ => ?_
  rcases t.find? l with _ | content | _
  · constructor <;> intro h <;> cases h
  · constructor <;> intro h <;> cases h <;> rfl
  · constructor <;> intro h <;> cases h

/-- A text is read with line feeds for all line ends. -/
theorem readText_eq_ok_iff {text : String} :
    t.readText p = .ok text ↔
      ∃ content, t.stored p = .ok content ∧
        text = String.ofList (Text.foldEndings content.toList) := by
  unfold readText
  cases t.stored p with
  | error fault => constructor <;> simp [Except.map]
  | ok content => simp [Except.map, eq_comm]

theorem readText_eq_ok {text : String} (h : t.readText p = .ok text) :
    text = String.ofList (Text.foldEndings (t.content (t.destination p)).toList) := by
  obtain ⟨content, hstored, rfl⟩ := readText_eq_ok_iff.1 h
  obtain ⟨l, hl, hfind⟩ := stored_eq_ok.1 hstored
  rw [← locate_eq_ok hl, content_of_file hfind]

/-- Paths lead where they did when a file is replaced by another one. -/
theorem walk_put_file {old text : String} (h : t.find? l = some (.file old)) (k : Location)
    (names : List String) : (t.put l (.file text)).walk k names = t.walk k names := by
  have hl : l ≠ [] := ne_nil_of_find?_ne (t := t) (by simp [h])
  induction names generalizing k with
  | nil => rfl
  | cons name names ih =>
    rw [walk, walk, find?_put t _ hl]
    by_cases hk : k = l
    · rw [if_pos hk, hk, h]
    · simp only [if_neg hk, ih]

/-- A text that takes the place of another one is found where it was stored. -/
theorem stored_writeText {old text : String} (hold : t.stored p = .ok old)
    (h : t.writeText p text = .ok u) : u.stored p = .ok text := by
  obtain ⟨l, hl, hfind⟩ := stored_eq_ok.1 hold
  have hu : u = t.put l (.file text) := by
    obtain ⟨l', hl', h⟩ := bind_eq_ok.1 h
    obtain rfl := Except.ok.inj (hl.symm.trans hl')
    simp only [hfind] at h
    cases h
    rfl
  have hlocate : (t.put l (.file text)).locate p = t.locate p := by
    unfold locate
    rw [walk_put_file hfind]
    rfl
  rw [hu, stored_eq_ok]
  refine ⟨l, hlocate.trans hl, ?_⟩
  rw [find?_put t _ (ne_nil_of_find?_ne (t := t) (by simp [hfind])), if_pos rfl]

theorem adds_of_appendText {text : String} (h : t.appendText p text = .ok u) :
    Adds t u fun l => if l = t.destination p then text else "" := by
  obtain ⟨hdirectory, hcontent⟩ := content_of_modifyText h
  refine ⟨hdirectory, fun l => ?_⟩
  rw [hcontent]
  by_cases hl : l = t.destination p
  · rw [if_pos hl, if_pos hl]
  · rw [if_neg hl, if_neg hl]
    simp

end Protogen.FileTree
