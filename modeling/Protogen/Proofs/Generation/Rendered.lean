import Protogen.Proofs.Generation.Render

/-!
# Code collected by path

* `Rendered.textsAt` are the texts that go to a place, in their order. Texts that are set take the
  place of those before (`textsAt_foldl_place`), texts that are merged are put behind them
  (`merge_spec`).
* `Generation.codeAt` is the code of all files with a path of their compiled file;
  `textsAt_renderEach` is what of it is collected: that of the last of these files.
-/

set_option autoImplicit false

namespace Protogen

open Schema

/-! ## The last of several texts -/

/-- The last of several texts, the empty one if there is none. -/
def lastText (texts : List String) : String := String.join texts.getLast?.toList

/-- The last text stands for all of them if there are no others. -/
theorem lastText_of_length_le {texts : List String} (h : texts.length ≤ 1) :
    lastText texts = String.join texts := by
  match texts, h with
  | [], _ => rfl
  | [_], _ => rfl

theorem length_lastText_le (texts : List String) :
    (lastText texts).length ≤ (String.join texts).length := by
  rcases List.eq_nil_or_concat texts with rfl | ⟨init, last, rfl⟩
  · exact Nat.le_refl _
  · simp [lastText, String.join_append]

/-- Where none of the texts is empty, the others are missing. -/
theorem length_le_of_length_lastText {texts : List String} (hne : "" ∉ texts)
    (h : (lastText texts).length = (String.join texts).length) : texts.length ≤ 1 := by
  rcases List.eq_nil_or_concat texts with rfl | ⟨init, last, rfl⟩
  · exact Nat.zero_le 1
  · have hinit : (String.join init).length = 0 := by
      rw [List.concat_eq_append, lastText, List.getLast?_append_of_ne_nil _ (by simp),
        String.join_append, String.length_append] at h
      change (String.join [last]).length = _ at h
      omega
    cases init with
    | nil => simp
    | cons first rest =>
      rw [String.join_cons, String.length_append] at hinit
      have hfirst : first = "" := by
        rw [← String.length_eq_zero_iff]
        omega
      exact absurd (by simp [hfirst]) hne

namespace Rendered

variable {κ : Type} [DecidableEq κ] {place : Path → κ} {k : κ}
variable {p q : Path} {text : String} {r : Rendered}

/-! ## Texts by place -/

/-- The texts that go to a place, in their order. -/
def textsAt (place : Path → κ) (k : κ) (r : Rendered) : List String :=
  r.filterMap fun e => if place e.1 = k then some e.2 else none

/-- The text of a path, the empty one if it has none. -/
def textAt (r : Rendered) (p : Path) : String := (r.lookup p).getD ""

/-- Each path is there once. -/
def IsIndexed (r : Rendered) : Prop := (r.map Prod.fst).Nodup

theorem textsAt_cons (e : Path × String) (r : Rendered) :
    textsAt place k (e :: r) =
      if place e.1 = k then e.2 :: textsAt place k r else textsAt place k r := by
  unfold textsAt
  by_cases h : place e.1 = k <;> simp [h]

theorem textsAt_append (r s : Rendered) :
    textsAt place k (r ++ s) = textsAt place k r ++ textsAt place k s :=
  List.filterMap_append

theorem mem_textsAt_iff : text ∈ textsAt place k r ↔ ∃ p, place p = k ∧ (p, text) ∈ r := by
  unfold textsAt
  rw [List.mem_filterMap]
  constructor
  · rintro ⟨⟨p, text'⟩, hmem, h⟩
    split at h
    · cases h
      exact ⟨p, ‹_›, hmem⟩
    · cases h
  · rintro ⟨p, hp, hmem⟩
    exact ⟨(p, text), hmem, by simp [hp]⟩

theorem textsAt_eq_nil (h : p ∉ r.map Prod.fst) : textsAt id p r = [] := by
  rw [List.eq_nil_iff_forall_not_mem]
  intro text htext
  obtain ⟨q, rfl, hmem⟩ := mem_textsAt_iff.1 htext
  exact h (List.mem_map_of_mem hmem)

theorem mem_keys_iff : p ∈ r.map Prod.fst ↔ textsAt id p r ≠ [] := by
  constructor
  · intro h hnil
    obtain ⟨⟨q, text⟩, hmem, rfl⟩ := List.mem_map.1 h
    have htext : text ∈ textsAt id q r := mem_textsAt_iff.2 ⟨q, rfl, hmem⟩
    rw [hnil] at htext
    exact List.not_mem_nil htext
  · intro h
    by_contra hmem
    exact h (textsAt_eq_nil hmem)

/-- The texts of a place depend on which of the paths lead there. -/
theorem textsAt_congr {κ' : Type} [DecidableEq κ'] {place' : Path → κ'} {k' : κ'}
    (h : ∀ q ∈ r.map Prod.fst, (place q = k ↔ place' q = k')) :
    textsAt place k r = textsAt place' k' r := by
  induction r with
  | nil => rfl
  | cons e r ih =>
    rw [List.map_cons, List.forall_mem_cons] at h
    simp only [textsAt_cons, h.1, ih h.2]

/-- A text of a path is its only one where each path is there once. -/
theorem length_textsAt_le (h : IsIndexed r) : (textsAt id p r).length ≤ 1 := by
  induction r with
  | nil => exact Nat.zero_le 1
  | cons e r ih =>
    obtain ⟨hhead, hrest⟩ := List.nodup_cons.1 h
    rw [textsAt_cons]
    by_cases hp : id e.1 = p
    · rw [if_pos hp, textsAt_eq_nil (hp ▸ hhead)]
      exact Nat.le_refl 1
    · rw [if_neg hp]
      exact ih hrest

/-! ## Setting -/

theorem mem_keys_set : q ∈ (set p text r).map Prod.fst ↔ q = p ∨ q ∈ r.map Prod.fst := by
  induction r with
  | nil => simp [set]
  | cons e r ih =>
    rw [set]
    by_cases h : e.1 = p
    · simp [h]
    · rw [if_neg h, List.map_cons, List.map_cons, List.mem_cons, List.mem_cons, ih]
      exact or_left_comm

theorem isIndexed_set (h : IsIndexed r) : IsIndexed (set p text r) := by
  induction r with
  | nil => simp [set, IsIndexed]
  | cons e r ih =>
    obtain ⟨hhead, hrest⟩ := List.nodup_cons.1 h
    rw [set]
    by_cases hp : e.1 = p
    · rw [if_pos hp]
      exact List.nodup_cons.2 ⟨hp ▸ hhead, hrest⟩
    · rw [if_neg hp]
      refine List.nodup_cons.2 ⟨?_, ih hrest⟩
      rw [mem_keys_set]
      exact not_or.2 ⟨hp, hhead⟩

/-- A text that is set is the only one of its path. -/
theorem textsAt_set (h : IsIndexed r) :
    textsAt id q (set p text r) = if q = p then [text] else textsAt id q r := by
  induction r with
  | nil => by_cases hq : q = p <;> simp [set, textsAt, hq, eq_comm]
  | cons e r ih =>
    obtain ⟨hhead, hrest⟩ := List.nodup_cons.1 h
    rw [set]
    by_cases hp : e.1 = p
    · subst hp
      rw [if_pos rfl, textsAt_cons, textsAt_cons]
      by_cases hq : q = e.1
      · subst hq
        simp [textsAt_eq_nil hhead]
      · have hne : ¬e.1 = q := fun heq => hq heq.symm
        simp [hq, hne]
    · rw [if_neg hp, textsAt_cons, textsAt_cons, ih hrest]
      by_cases hq : q = p
      · simp [hq, hp]
      · simp [hq]

/-- Of the texts that are placed under a path, the last one stays. -/
theorem textsAt_foldl_place (results : List (Option (Path × String))) (h : IsIndexed r) :
    IsIndexed (results.foldl Rendered.place r) ∧
      textsAt id q (results.foldl Rendered.place r) =
        (textsAt id q r ++ textsAt id q (results.filterMap id)).getLast?.toList := by
  induction results generalizing r with
  | nil =>
    refine ⟨h, ?_⟩
    have hlength : (textsAt id q r).length ≤ 1 := length_textsAt_le h
    match textsAt id q r, hlength with
    | [], _ => rfl
    | [text], _ => rfl
  | cons result results ih =>
    cases result with
    | none => exact ih h
    | some e =>
      have hset : IsIndexed (set e.1 e.2 r) := isIndexed_set h
      obtain ⟨hindexed, htexts⟩ := ih hset
      refine ⟨hindexed, htexts.trans ?_⟩
      rw [textsAt_set h, List.filterMap_cons_some (by rfl), textsAt_cons]
      by_cases hq : q = e.1
      · simp [hq, List.getLast?_append, List.getLast?_cons]
      · have hne : ¬e.1 = q := fun heq => hq heq.symm
        simp [hq, hne]

/-! ## Merging -/

/-- Paths come up where a text is put behind others as they do where it is set. -/
theorem keys_extend (p : Path) (text : String) (r : Rendered) :
    (extend p text r).map Prod.fst = (set p text r).map Prod.fst := by
  induction r with
  | nil => rfl
  | cons e r ih =>
    rw [extend, set]
    by_cases h : e.1 = p
    · rw [if_pos h, if_pos h]
      rfl
    · rw [if_neg h, if_neg h, List.map_cons, List.map_cons, ih]

theorem isIndexed_extend (h : IsIndexed r) : IsIndexed (extend p text r) := by
  unfold IsIndexed
  rw [keys_extend]
  exact isIndexed_set h

theorem textAt_cons (e : Path × String) (r : Rendered) :
    textAt (e :: r) p = if p = e.1 then e.2 else textAt r p := by
  unfold textAt
  rw [List.lookup_cons]
  by_cases h : p = e.1 <;> simp [h, beq_false_of_ne]

theorem textAt_extend :
    (extend p text r).textAt q = if q = p then r.textAt q ++ text else r.textAt q := by
  induction r with
  | nil => by_cases hq : q = p <;> simp [extend, textAt, List.lookup_cons, hq, beq_false_of_ne]
  | cons e r ih =>
    rw [extend]
    by_cases hp : e.1 = p
    · rw [if_pos hp, textAt_cons, textAt_cons]
      by_cases hq : q = p <;> simp [hq, hp]
    · rw [if_neg hp, textAt_cons, textAt_cons, ih]
      by_cases hq : q = e.1
      · simp [hq, hp]
      · simp [hq]

theorem mem_keys_merge {steps : List Rendered} :
    p ∈ (merge steps).map Prod.fst ↔ ∃ step ∈ steps, p ∈ step.map Prod.fst := by
  have hfold : ∀ entries r : Rendered,
      p ∈ (entries.foldl (fun acc e => extend e.1 e.2 acc) r).map Prod.fst ↔
        p ∈ entries.map Prod.fst ∨ p ∈ r.map Prod.fst := by
    intro entries
    induction entries with
    | nil => simp
    | cons e entries ih =>
      intro r
      rw [List.foldl_cons, ih, keys_extend, mem_keys_set, List.map_cons, List.mem_cons,
        ← or_assoc, or_comm (a := p ∈ entries.map Prod.fst)]
  rw [merge, hfold]
  simp only [List.map_nil, List.not_mem_nil, or_false, List.mem_map, List.mem_flatten]
  constructor
  · rintro ⟨e, ⟨step, hstep, he⟩, rfl⟩
    exact ⟨step, hstep, e, he, rfl⟩
  · rintro ⟨step, hstep, e, he, rfl⟩
    exact ⟨e, ⟨step, hstep, he⟩, rfl⟩

/-- Texts that are merged are put behind each other, each path once. -/
theorem merge_spec (steps : List Rendered) :
    IsIndexed (merge steps) ∧
      ∀ p, (merge steps).textAt p = String.join (textsAt id p steps.flatten) := by
  have hfold : ∀ (entries r : Rendered), IsIndexed r →
      IsIndexed (entries.foldl (fun acc e => extend e.1 e.2 acc) r) ∧
        ∀ p, textAt (entries.foldl (fun acc e => extend e.1 e.2 acc) r) p =
          r.textAt p ++ String.join (textsAt id p entries) := by
    intro entries
    induction entries with
    | nil => exact fun r h => ⟨h, by simp [textsAt]⟩
    | cons e entries ih =>
      intro r h
      have hextend : IsIndexed (extend e.1 e.2 r) := isIndexed_extend h
      obtain ⟨hindexed, htext⟩ := ih _ hextend
      refine ⟨hindexed, fun p => ?_⟩
      rw [List.foldl_cons, htext, textAt_extend, textsAt_cons]
      by_cases hp : p = e.1
      · simp [hp, String.append_assoc]
      · have hne : ¬e.1 = p := fun heq => hp heq.symm
        simp [hp, hne]
  obtain ⟨hindexed, htext⟩ := hfold steps.flatten [] List.nodup_nil
  refine ⟨hindexed, fun p => ?_⟩
  rw [merge, htext]
  simp [textAt]

/-- Where each path is there once, the texts of a place are those of the paths that lead there. -/
theorem textsAt_eq_map (h : IsIndexed r) (goes : Path → κ) (k : κ) :
    textsAt goes k r = ((r.map Prod.fst).filter fun p => goes p = k).map r.textAt := by
  induction r with
  | nil => rfl
  | cons e r ih =>
    obtain ⟨hhead, hrest⟩ := List.nodup_cons.1 h
    have htext : ∀ p ∈ (r.map Prod.fst).filter fun p => goes p = k,
        textAt (e :: r) p = textAt r p := by
      intro p hp
      rw [textAt_cons, if_neg]
      rintro rfl
      exact hhead (List.mem_of_mem_filter hp)
    have hhere : textAt (e :: r) e.1 = e.2 := by
      rw [textAt_cons, if_pos rfl]
    rw [textsAt_cons, List.map_cons, List.filter_cons, ih hrest, ← List.map_congr_left htext]
    by_cases hk : goes e.1 = k
    · rw [if_pos hk, if_pos (by simp [hk]), List.map_cons, hhere]
    · rw [if_neg hk, if_neg (by simp [hk])]

/-- Where each path is there once, its texts are its text. -/
theorem join_textsAt_id (h : IsIndexed r) (p : Path) :
    String.join (textsAt id p r) = r.textAt p := by
  induction r with
  | nil => rfl
  | cons e r ih =>
    obtain ⟨hhead, hrest⟩ := List.nodup_cons.1 h
    rw [textsAt_cons, textAt_cons]
    by_cases hp : p = e.1
    · subst hp
      rw [if_pos (id_eq _), if_pos rfl, textsAt_eq_nil hhead, String.join_cons, String.join_nil,
        String.append_empty]
    · have hne : ¬id e.1 = p := fun heq => hp heq.symm
      rw [if_neg hne, if_neg hp, ih hrest]

/-- The texts that are merged, by path. -/
theorem join_textsAt_merge (steps : List Rendered) (p : Path) :
    String.join (textsAt id p (merge steps)) = String.join (textsAt id p steps.flatten) := by
  obtain ⟨hindexed, htext⟩ := merge_spec steps
  rw [join_textsAt_id hindexed, htext]

/-- A path with a text is there. -/
theorem mem_keys_of_textAt (h : r.textAt p ≠ "") : p ∈ r.map Prod.fst := by
  cases hlookup : r.lookup p with
  | none => exact absurd (by rw [textAt, hlookup]; rfl) h
  | some text =>
    obtain ⟨before, after, rfl, -⟩ := List.lookup_eq_some_iff.1 hlookup
    simp

end Rendered

/-! ## Code of a set -/

namespace Generation

variable {g : Generation} {s : FileSet} {render : File → Except Failure (Option String)}
variable {p : Path} {text : String}

/-- The code of a set for the files whose compiled file has a path, in the order of the files. -/
def codeAt (g : Generation) (s : FileSet) (render : File → Except Failure (Option String))
    (p : Path) : List String :=
  Rendered.textsAt id p
    ((s.files.getD []).filterMap fun item => (g.renderItem render item).toOption.join)

theorem mem_codeAt_iff {files : List (Option File)} (hfiles : s.files = some files) :
    text ∈ g.codeAt s render p ↔
      ∃ item ∈ files, g.renderItem render item = .ok (some (p, text)) := by
  unfold codeAt
  rw [Rendered.mem_textsAt_iff, hfiles]
  constructor
  · rintro ⟨q, rfl, hmem⟩
    obtain ⟨item, hitem, hrender⟩ := List.mem_filterMap.1 hmem
    refine ⟨item, hitem, ?_⟩
    cases hr : g.renderItem render item with
    | error failure => simp [hr, Except.toOption] at hrender
    | ok r =>
      simp only [hr, Except.toOption, Option.join_some] at hrender
      rw [hrender]
      rfl
  · rintro ⟨item, hitem, hrender⟩
    refine ⟨p, rfl, List.mem_filterMap.2 ⟨item, hitem, ?_⟩⟩
    simp [hrender, Except.toOption]

/-- What is rendered for a file goes to its compiled file. -/
theorem exists_of_renderItem {item : Option File}
    (h : g.renderItem render item = .ok (some (p, text))) :
    ∃ f, item = some f ∧ render f = .ok (some text) ∧ g.jsPath f = .ok p := by
  obtain ⟨f, hf, h⟩ := bind_eq_ok.1 h
  obtain ⟨text', htext, h⟩ := bind_eq_ok.1 h
  cases text' with
  | none => cases h
  | some text' =>
    obtain ⟨path, hpath, h⟩ := bind_eq_ok.1 h
    cases h
    exact ⟨f, declared_eq_ok_iff.1 (failing_eq_ok.1 hf), htext, failing_eq_ok.1 hpath⟩

/-- A set has code only if it has files. -/
theorem exists_files_of_renderEach {rendered : Rendered} (h : g.renderEach s render = .ok rendered) :
    ∃ files, s.files = some files := by
  obtain ⟨files, hfiles, -⟩ := bind_eq_ok.1 h
  rw [failing_eq_ok] at hfiles
  unfold FileSet.fileList wanted at hfiles
  split at hfiles
  · exact ⟨_, ‹_›⟩
  · cases hfiles

/-- Of the code for the files with one path the last piece is collected. -/
theorem textsAt_renderEach {rendered : Rendered} (h : g.renderEach s render = .ok rendered)
    (p : Path) : Rendered.textsAt id p rendered = (g.codeAt s render p).getLast?.toList := by
  obtain ⟨files, hfiles⟩ := exists_files_of_renderEach h
  rw [renderEach_eq hfiles] at h
  cases hresults : files.mapM (g.renderItem render) with
  | error failure =>
    rw [hresults] at h
    cases h
  | ok results =>
    rw [hresults] at h
    cases h
    have hall : files.filterMap (fun item => (g.renderItem render item).toOption.join) =
        results.filterMap id := by
      have hforall := mapM_eq_ok_iff.1 hresults
      clear hresults hfiles
      induction hforall with
      | nil => rfl
      | cons hfirst _ ih =>
        rw [List.filterMap_cons, List.filterMap_cons, ih, hfirst]
        rfl
    have hempty : Rendered.IsIndexed [] := List.nodup_nil
    rw [(Rendered.textsAt_foldl_place results hempty).2, codeAt, hfiles]
    simp only [Option.getD_some, hall]
    rfl

/-- Code is collected for the compiled files of those files of which there is some. -/
theorem mem_keys_renderEach_iff {files : List (Option File)} {rendered : Rendered}
    (hfiles : s.files = some files) (h : g.renderEach s render = .ok rendered) :
    p ∈ rendered.map Prod.fst ↔
      ∃ f text, some f ∈ files ∧ render f = .ok (some text) ∧ g.jsPath f = .ok p := by
  rw [Rendered.mem_keys_iff, textsAt_renderEach h]
  constructor
  · intro hne
    have hcode : g.codeAt s render p ≠ [] := by
      intro hnil
      rw [hnil] at hne
      exact hne rfl
    obtain ⟨text, htext⟩ := List.exists_mem_of_ne_nil _ hcode
    obtain ⟨item, hitem, hr⟩ := (mem_codeAt_iff hfiles).1 htext
    obtain ⟨f, rfl, hrender, hpath⟩ := exists_of_renderItem hr
    exact ⟨f, text, hitem, hrender, hpath⟩
  · rintro ⟨f, text, hf, hrender, hpath⟩ hnil
    have hitem : g.renderItem render (some f) = .ok (some (p, text)) :=
      bind_eq_ok.2 ⟨f, rfl, bind_eq_ok.2 ⟨some text, hrender,
        bind_eq_ok.2 ⟨p, failing_eq_ok.2 hpath, rfl⟩⟩⟩
    have hmem := (mem_codeAt_iff hfiles).2 ⟨some f, hf, hitem⟩
    rw [Option.toList_eq_nil_iff, List.getLast?_eq_none_iff] at hnil
    rw [hnil] at hmem
    cases hmem

/-- The parsers and the functions that return type URLs are collected for compiled files of a set. -/
theorem exists_of_mem_merge {registry : Registry} {parsers typeUrls : Rendered}
    (hparsers : g.renderParsers s registry = .ok parsers)
    (htypeUrls : g.renderTypeUrls s = .ok typeUrls)
    (hp : p ∈ (Rendered.merge [parsers, typeUrls]).map Prod.fst) :
    ∃ files f, s.files = some files ∧ some f ∈ files ∧ g.jsPath f = .ok p := by
  obtain ⟨files, hfiles⟩ := exists_files_of_renderEach htypeUrls
  obtain ⟨step, hstep, hkey⟩ := Rendered.mem_keys_merge.1 hp
  simp only [List.mem_cons, List.not_mem_nil, or_false] at hstep
  rcases hstep with rfl | rfl
  · obtain ⟨f, -, hf, -, hpath⟩ := (mem_keys_renderEach_iff hfiles hparsers).1 hkey
    exact ⟨files, f, hfiles, hf, hpath⟩
  · obtain ⟨f, -, hf, -, hpath⟩ := (mem_keys_renderEach_iff hfiles htypeUrls).1 hkey
    exact ⟨files, f, hfiles, hf, hpath⟩

end Generation

end Protogen
