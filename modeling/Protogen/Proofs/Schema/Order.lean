import Mathlib.Data.List.Perm.Basic
import Protogen.Output.Index
import Protogen.Proofs.Schema.Types

/-!
# Files in another order

What is computed file by file comes in another order for files in another order, and is the same
otherwise.

* `perm_mapM` is this for a list of computations.
* `FileSet.perm_messageTypes` and `FileSet.perm_enumTypes`: the types of a set.
* `FileSet.perm_knownTypes`, `FileSet.perm_typeParsers` and `FileSet.perm_indexImports`: the tables
  of the index and its imports.
-/

set_option autoImplicit false

namespace Protogen

/-- The results of a list in another order are the same results in another order. -/
theorem perm_mapM {ε α β : Type} {f : α → Except ε β} {items items' : List α} {results : List β}
    (hperm : items.Perm items') (h : items.mapM f = .ok results) :
    ∃ results', items'.mapM f = .ok results' ∧ results.Perm results' := by
  obtain ⟨results', hresults', hperm'⟩ := List.perm_comp_forall₂ hperm.symm (mapM_eq_ok_iff.1 h)
  exact ⟨results', mapM_eq_ok_iff.2 hresults', hperm'.symm⟩

namespace Schema.FileSet

variable {files files' : List (Option File)} {s s' : FileSet}

theorem fileList_eq (hfiles : s.files = some files) : s.fileList = .ok files := by
  rw [fileList, hfiles]
  rfl

section

variable (hfiles : s.files = some files) (hfiles' : s'.files = some files')
  (hperm : files.Perm files')
include hfiles hfiles' hperm

/-- What a set collects from its files. -/
theorem perm_flatten_mapM {α : Type} {f : Option File → Except NullPart (List α)} {items : List α}
    (h : (do let lists ← (← s.fileList).mapM f; pure lists.flatten) = .ok items) :
    ∃ items', (do let lists ← (← s'.fileList).mapM f; pure lists.flatten) = .ok items' ∧
      items.Perm items' := by
  obtain ⟨list, hlist, h⟩ := bind_eq_ok.1 h
  obtain rfl := Except.ok.inj (hlist.symm.trans (fileList_eq hfiles))
  obtain ⟨lists, hlists, h⟩ := bind_eq_ok.1 h
  cases h
  obtain ⟨lists', hlists', hperm'⟩ := perm_mapM hperm hlists
  exact ⟨lists'.flatten, bind_eq_ok.2 ⟨files', fileList_eq hfiles',
    bind_eq_ok.2 ⟨lists', hlists', rfl⟩⟩, hperm'.flatten⟩

theorem perm_messageTypes {messages : List MessageType} (h : s.messageTypes = .ok messages) :
    ∃ messages', s'.messageTypes = .ok messages' ∧ messages.Perm messages' :=
  perm_flatten_mapM hfiles hfiles' hperm h

theorem perm_enumTypes {enums : List EnumType} (h : s.enumTypes = .ok enums) :
    ∃ enums', s'.enumTypes = .ok enums' ∧ enums.Perm enums' :=
  perm_flatten_mapM hfiles hfiles' hperm h

theorem perm_typeParsers {table : List (String × String)} (h : s.typeParsers = .ok table) :
    ∃ table', s'.typeParsers = .ok table' ∧ table.Perm table' :=
  perm_flatten_mapM hfiles hfiles' hperm h

theorem perm_knownTypes {table : List (String × String)} (h : s.knownTypes = .ok table) :
    ∃ table', s'.knownTypes = .ok table' ∧ table.Perm table' := by
  obtain ⟨messages, hmessages, h⟩ := bind_eq_ok.1 h
  obtain ⟨enums, henums, h⟩ := bind_eq_ok.1 h
  cases h
  obtain ⟨messages', hmessages', hpermMessages⟩ := perm_messageTypes hfiles hfiles' hperm hmessages
  obtain ⟨enums', henums', hpermEnums⟩ := perm_enumTypes hfiles hfiles' hperm henums
  exact ⟨_, bind_eq_ok.2 ⟨messages', hmessages', bind_eq_ok.2 ⟨enums', henums', rfl⟩⟩,
    (hpermMessages.map _).append (hpermEnums.map _)⟩

theorem perm_indexImports {imports : List String} (h : s.indexImports = .ok imports) :
    ∃ imports', s'.indexImports = .ok imports' ∧ imports.Perm imports' := by
  obtain ⟨list, hlist, h⟩ := bind_eq_ok.1 h
  obtain rfl := Except.ok.inj (hlist.symm.trans (fileList_eq hfiles))
  obtain ⟨items, hitems, h⟩ := bind_eq_ok.1 h
  cases h
  obtain ⟨items', hitems', hperm'⟩ := perm_mapM hperm hitems
  exact ⟨items'.filterMap id, bind_eq_ok.2 ⟨files', fileList_eq hfiles',
    bind_eq_ok.2 ⟨items', hitems', rfl⟩⟩, hperm'.filterMap id⟩

end

end Schema.FileSet

end Protogen
