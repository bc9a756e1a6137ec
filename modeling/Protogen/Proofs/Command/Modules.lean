import Protogen.Proofs.Command.Check
import Protogen.Proofs.Import.Config
import Protogen.Proofs.Session
import Protogen.Proofs.Text.HasLine
import Protogen.Proofs.Text.Trim

/-!
# Modules of a command line

A command knows the modules of a configuration file, those of its options and the predefined ones.
Modules of one name are merged: the patterns of the file come first.

* `Action.Ends` says which values an action can have and whether it fails without a complaint; it
  goes through `Action.Ends.bind` and `Action.Ends.mapM`.
* `IsSpec` and `IsBadSpec` are the options that stand for a module and those that stand for none.
* `moduleNames` and `patternsOf` are the names and the patterns of merged modules;
  `map_fst_foldl_addModule` and `patternsOf_foldl_addModule` follow them through the options.
* `IsConfigured` are the modules of a command, `IsRefused` the command lines that have to be complained
  about, and `IsUnreported` those that end without a complaint.
* `configuredModules_settle` puts this together for all command lines.
-/

set_option autoImplicit false

namespace Protogen.Command

open Import

/-! ## How an action ends -/

namespace Action

variable {α β : Type} {x : Action α} {k : α → Action β} {c : Console} {values : α → Prop}
  {escapes : Prop}

/-- An action that only looks, the values that it has, and whether it ends with a failure that is not
reported. Otherwise it complains. -/
structure Ends (x : Action α) (c : Console) (values : α → Prop) (escapes : Prop) : Prop where
  passive : (x.run c).2 = c
  value : ∀ v, (x.run c).1 = .ok v ↔ values v
  escape : (∃ failure, (x.run c).1 = .error (.escaped failure)) ↔ escapes

/-- What has no value and does not escape is complained about. -/
theorem Ends.complains_iff (h : x.Ends c values escapes) :
    (∃ complaint, (x.run c).1 = .error (.complaint complaint)) ↔
      (¬∃ v, values v) ∧ ¬escapes := by
  rw [← h.escape]
  simp only [← h.value]
  cases (x.run c).1 with
  | ok v => simp
  | error abort => cases abort <;> simp

theorem Ends.congr {others : α → Prop} {otherEscapes : Prop} (h : x.Ends c values escapes)
    (hvalues : ∀ v, values v ↔ others v) (hescapes : escapes ↔ otherEscapes) :
    x.Ends c others otherEscapes :=
  ⟨h.passive, fun v => (h.value v).trans (hvalues v), h.escape.trans hescapes⟩

theorem Ends.of_run {result : Except Abort α} (h : x.run c = (result, c)) :
    x.Ends c (result = .ok ·) (∃ failure, result = .error (.escaped failure)) := by
  refine ⟨?_, fun v => ?_, ?_⟩ <;> rw [h]

theorem Ends.pure (v : α) (c : Console) : (Pure.pure v : Action α).Ends c (v = ·) False :=
  (Ends.of_run rfl).congr (fun _ => by simp) (by simp)

theorem Ends.complain (complaint : Complaint) (c : Console) :
    (Action.complain complaint : Action α).Ends c (fun _ => False) False :=
  (Ends.of_run rfl).congr (fun _ => by simp) (by simp)

theorem Ends.demand (onFailure : Failure → Abort) (result : Except Failure α) (c : Console) :
    (Action.demand onFailure result).Ends c (result = .ok ·)
      (∃ failure escaped, result = .error failure ∧ onFailure failure = .escaped escaped) :=
  (Ends.of_run rfl).congr (fun _ => mapError_eq_ok) (by
    simp only [mapError_eq_error]
    exact exists_comm)

/-- Behind an action, another one goes on with its values. -/
theorem Ends.bind {others : α → β → Prop} {otherEscapes : α → Prop}
    (hx : x.Ends c values escapes)
    (hk : ∀ v, values v → (k v).Ends c (others v) (otherEscapes v)) :
    (x >>= k).Ends c (fun b => ∃ v, values v ∧ others v b)
      (escapes ∨ ∃ v, values v ∧ otherEscapes v) := by
  obtain ⟨hpassive, hvalue, hescape⟩ := hx
  rcases hrun : x.run c with ⟨result, next⟩
  rw [hrun] at hpassive hvalue hescape
  obtain rfl : next = c := hpassive
  cases result with
  | error abort =>
    have hnone : ∀ v, ¬values v := fun v hv => by cases (hvalue v).2 hv
    have hbind := run_bind_of_error (k := k) hrun
    refine ⟨by rw [hbind], fun b => ?_, ?_⟩
    · simp [hbind, hnone]
    · simp [hbind, hnone, ← hescape]
  | ok v =>
    have hsame : ∀ v', values v' ↔ v = v' := fun v' => by rw [← hvalue v', Except.ok.injEq]
    have hno : ¬escapes := fun h => by
      obtain ⟨failure, hfailure⟩ := hescape.2 h
      cases hfailure
    obtain ⟨hpassive', hvalue', hescape'⟩ := hk v ((hsame v).2 rfl)
    have hbind := run_bind_of_ok (k := k) hrun
    refine ⟨by rw [hbind, hpassive'], fun b => ?_, ?_⟩
    · simp [hbind, hsame, hvalue']
    · simp [hbind, hsame, hno, hescape']

/-- Actions on a list, none of which escapes, have the values of each of them. -/
theorem Ends.mapM {f : α → Action β} {others : α → β → Prop} {items : List α}
    (h : ∀ v ∈ items, (f v).Ends c (others v) False) :
    (items.mapM f).Ends c (List.Forall₂ others items) False := by
  induction items with
  | nil => exact (Ends.pure [] c).congr (by simp [eq_comm]) Iff.rfl
  | cons v items ih =>
    obtain ⟨hfirst, hrest⟩ := List.forall_mem_cons.1 h
    rw [List.mapM_cons]
    refine (hfirst.bind fun b _ => (ih hrest).bind fun bs _ => Ends.pure (b :: bs) c).congr
      (fun results => ?_) (by simp)
    rw [List.forall₂_cons_left_iff]
    constructor
    · rintro ⟨b, hb, bs, hbs, rfl⟩
      exact ⟨b, bs, hb, hbs, rfl⟩
    · rintro ⟨b, bs, hb, hbs, rfl⟩
      exact ⟨b, hb, bs, hbs, rfl⟩

end Action

/-! ## Options that stand for modules -/

variable {spec : String} {m : String × List String} {name patterns : List Char}

/-- What an option stands for: behind its first equals sign are patterns between commas, of which
blank ones do not count; the white space around the name in front of it does not count. -/
inductive IsSpec (spec : String) : String × List String → Prop
  | intro {name patterns : List Char} (cut : spec.toList = name ++ '=' :: patterns)
      (first : '=' ∉ name) (named : ∃ c ∈ name, Text.isBlank c = false) :
      IsSpec spec (String.ofList (Text.trim name),
        (Text.split ',' (String.ofList patterns)).filter fun pattern =>
          pattern.toList.any fun c => !Text.isBlank c)

/-- An option without an equals sign or with a blank name. -/
inductive IsBadSpec (spec : String) : Prop
  | noEquals (missing : '=' ∉ spec.toList)
  | blankName {name patterns : List Char} (cut : spec.toList = name ++ '=' :: patterns)
      (first : '=' ∉ name) (blank : ∀ c ∈ name, Text.isBlank c = true)

theorem isEmpty_trim (chars : List Char) :
    (Text.trim chars).isEmpty = !chars.any fun c => !Text.isBlank c := by
  rw [Bool.eq_iff_iff, List.isEmpty_iff, Text.trim, Text.trimBy_eq_nil_iff]
  simp

theorem readModule_of_not_mem (h : '=' ∉ spec.toList) :
    readModule spec = .error ("expected NAME=PATTERN[,PATTERN...], got " ++ Text.quote spec) := by
  have hdrop : spec.toList.dropWhile (· != '=') = [] := by
    rw [List.dropWhile_eq_nil_iff]
    intro c hc
    rw [bne_iff_ne]
    rintro rfl
    exact h hc
  unfold readModule
  dsimp only
  rw [hdrop]

theorem readModule_of_cut (cut : spec.toList = name ++ '=' :: patterns) (first : '=' ∉ name) :
    readModule spec =
      if name.any fun c => !Text.isBlank c then
        .ok (String.ofList (Text.trim name),
          (Text.split ',' (String.ofList patterns)).filter fun pattern =>
            pattern.toList.any fun c => !Text.isBlank c)
      else .error ("expected NAME=PATTERN[,PATTERN...], got " ++ Text.quote spec) := by
  have hname : ∀ c ∈ name, (c != '=') = true := by
    intro c hc
    rw [bne_iff_ne]
    rintro rfl
    exact first hc
  unfold readModule
  dsimp only
  rw [cut, List.takeWhile_append_of_pos hname, List.dropWhile_append_of_pos hname,
    List.takeWhile_cons_of_neg (by decide), List.dropWhile_cons_of_neg (by decide),
    List.append_nil]
  simp only [isEmpty_trim]
  cases name.any fun c => !Text.isBlank c <;> simp

theorem readModule_eq_ok_iff : readModule spec = .ok m ↔ IsSpec spec m := by
  constructor
  · intro h
    by_cases hmem : '=' ∈ spec.toList
    · obtain ⟨name, patterns, cut, first⟩ := List.eq_append_cons_of_mem hmem
      rw [readModule_of_cut cut first] at h
      split at h
      · rename_i hnamed
        cases h
        exact .intro cut first (by simpa using hnamed)
      · cases h
    · rw [readModule_of_not_mem hmem] at h
      cases h
  · rintro ⟨cut, first, named⟩
    rw [readModule_of_cut cut first, if_pos (by simpa using named)]

/-- An option stands for a module unless its name is missing. -/
theorem exists_isSpec_iff : (∃ m, IsSpec spec m) ↔ ¬IsBadSpec spec := by
  constructor
  · rintro ⟨m, hm⟩ hbad
    rw [← readModule_eq_ok_iff] at hm
    cases hbad with
    | noEquals missing =>
      rw [readModule_of_not_mem missing] at hm
      cases hm
    | blankName cut first blank =>
      rw [readModule_of_cut cut first, if_neg (by simpa using blank)] at hm
      cases hm
  · intro h
    have hmem : '=' ∈ spec.toList := by
      by_contra hmissing
      exact h (.noEquals hmissing)
    obtain ⟨name, patterns, cut, first⟩ := List.eq_append_cons_of_mem hmem
    refine ⟨_, .intro cut first ?_⟩
    by_contra hblank
    exact h (.blankName cut first (by simpa using hblank))

/-! ## Merged modules -/

variable {config specs : Config}

/-- The names of merged modules: those of the configuration, and then those of the options that are
not among them, by their first appearance. -/
def moduleNames (config specs : Config) : List String :=
  config.map Prod.fst ++
    ((specs.map Prod.fst).filter fun name => name ∉ config.map Prod.fst).eraseDups

/-- All patterns of a name, in order. -/
def patternsOf (config : Config) (name : String) : List String :=
  (config.filter fun entry => entry.1 = name).flatMap Prod.snd

theorem map_fst_addModule (config : Config) (m : String × List String) :
    (addModule config m).map Prod.fst = addName (config.map Prod.fst) m.1 := by
  induction config with
  | nil => rfl
  | cons entry config ih =>
    rw [addModule, List.map_cons]
    by_cases hname : entry.1 = m.1
    · rw [if_pos hname, List.map_cons, hname, addName_cons_self]
    · rw [if_neg hname, List.map_cons, ih, addName_cons (Ne.symm hname)]

theorem nodup_addModule (h : (config.map Prod.fst).Nodup) :
    ((addModule config m).map Prod.fst).Nodup := by
  rw [map_fst_addModule]
  exact nodup_addName h

theorem patternsOf_cons (entry : String × List String) (config : Config) (name : String) :
    patternsOf (entry :: config) name =
      (if entry.1 = name then entry.2 else []) ++ patternsOf config name := by
  unfold patternsOf
  by_cases hname : entry.1 = name <;> simp [hname]

theorem patternsOf_of_not_mem {name : String} (h : name ∉ config.map Prod.fst) :
    patternsOf config name = [] := by
  unfold patternsOf
  rw [List.filter_eq_nil_iff.2, List.flatMap_nil]
  intro entry hentry heq
  exact h (List.mem_map.2 ⟨entry, hentry, by simpa using heq⟩)

/-- The patterns of an option go behind those that its name has. -/
theorem patternsOf_addModule (h : (config.map Prod.fst).Nodup) (name : String) :
    patternsOf (addModule config m) name =
      patternsOf config name ++ if m.1 = name then m.2 else [] := by
  induction config with
  | nil => exact (patternsOf_cons m [] name).trans (List.append_nil _)
  | cons entry config ih =>
    obtain ⟨hentry, hconfig⟩ := List.nodup_cons.1 h
    rw [addModule, patternsOf_cons]
    split
    · rename_i hname
      -- no other entry has the name
      rw [patternsOf_cons]
      by_cases hm : m.1 = name
      · have hnone := patternsOf_of_not_mem (hm ▸ hname ▸ hentry)
        simp [hname, hm, hnone]
      · simp [hname, hm]
    · rw [patternsOf_cons, ih hconfig, List.append_assoc]

theorem map_fst_foldl_addModule (config specs : Config) :
    (specs.foldl addModule config).map Prod.fst = moduleNames config specs := by
  have hfold : (specs.foldl addModule config).map Prod.fst =
      (specs.map Prod.fst).foldl addName (config.map Prod.fst) := by
    induction specs generalizing config with
    | nil => rfl
    | cons m specs ih => rw [List.foldl_cons, ih, map_fst_addModule, List.map_cons, List.foldl_cons]
  rw [hfold, foldl_addName, moduleNames]

theorem nodup_foldl_addModule (h : (config.map Prod.fst).Nodup) :
    ((specs.foldl addModule config).map Prod.fst).Nodup := by
  induction specs generalizing config with
  | nil => exact h
  | cons m specs ih => exact ih (nodup_addModule h)

theorem patternsOf_foldl_addModule (h : (config.map Prod.fst).Nodup) (name : String) :
    patternsOf (specs.foldl addModule config) name =
      patternsOf config name ++ patternsOf specs name := by
  induction specs generalizing config with
  | nil => simp [patternsOf]
  | cons m specs ih =>
    rw [List.foldl_cons, ih (nodup_addModule h), patternsOf_addModule h, patternsOf_cons,
      List.append_assoc]

theorem eq_patternsOf (h : (config.map Prod.fst).Nodup) {entry : String × List String}
    (hentry : entry ∈ config) : entry.2 = patternsOf config entry.1 := by
  induction config with
  | nil => cases hentry
  | cons first config ih =>
    obtain ⟨hfirst, hconfig⟩ := List.nodup_cons.1 h
    rw [patternsOf_cons]
    rcases List.mem_cons.1 hentry with rfl | hmem
    · rw [if_pos rfl, patternsOf_of_not_mem hfirst, List.append_nil]
    · have hne : first.1 ≠ entry.1 := fun heq => hfirst (heq ▸ List.mem_map_of_mem hmem)
      rw [if_neg hne, List.nil_append]
      exact ih hconfig hmem

theorem forall_mem_addModule {kind : String → Prop} (config : Config) (m : String × List String) :
    (∀ entry ∈ addModule config m, ∀ pattern ∈ entry.2, kind pattern) ↔
      (∀ entry ∈ config, ∀ pattern ∈ entry.2, kind pattern) ∧ ∀ pattern ∈ m.2, kind pattern := by
  induction config with
  | nil => simp [addModule]
  | cons entry config ih =>
    rw [addModule]
    split
    · simp only [List.forall_mem_cons, List.forall_mem_append]
      exact and_right_comm
    · rw [List.forall_mem_cons, ih, List.forall_mem_cons, and_assoc]

/-- The merged modules have no other patterns than the configuration and the options. -/
theorem forall_mem_foldl_addModule {kind : String → Prop} (config specs : Config) :
    (∀ entry ∈ specs.foldl addModule config, ∀ pattern ∈ entry.2, kind pattern) ↔
      (∀ entry ∈ config, ∀ pattern ∈ entry.2, kind pattern) ∧
        ∀ m ∈ specs, ∀ pattern ∈ m.2, kind pattern := by
  induction specs generalizing config with
  | nil => simp
  | cons m specs ih =>
    refine (ih (addModule config m)).trans ?_
    rw [forall_mem_addModule, List.forall_mem_cons, and_assoc]

/-- The modules that a configuration and options make: each name once, with the patterns of the
configuration and then those of the options. -/
structure AreMerged (config specs : Config) (user : List Module) : Prop where
  names : user.map Module.name = moduleNames config specs
  once : (user.map Module.name).Nodup
  patterns : ∀ m ∈ user, List.Forall₂ (fun text p => Pattern.read text = .ok p)
    (patternsOf config m.name ++ patternsOf specs m.name) m.patterns

theorem names_of_forall₂ {user : List Module} (h : List.Forall₂ IsModule config user) :
    user.map Module.name = config.map Prod.fst := by
  rw [← List.forall₂_eq_eq_eq, List.forall₂_map_left_iff, List.forall₂_map_right_iff]
  exact h.flip.imp fun m entry hm => hm.name

/-- Where names are not repeated, a module of a configuration has the patterns of its name. -/
theorem forall₂_isModule_iff {user : List Module} (h : (config.map Prod.fst).Nodup)
    (hnames : user.map Module.name = config.map Prod.fst) :
    List.Forall₂ IsModule config user ↔
      ∀ m ∈ user, List.Forall₂ (fun text p => Pattern.read text = .ok p)
        (patternsOf config m.name) m.patterns := by
  have hconfig : config = user.map fun m => (m.name, patternsOf config m.name) :=
    calc config = config.map fun entry => (entry.1, patternsOf config entry.1) := by
          conv_lhs => rw [← List.map_id config]
          exact List.map_congr_left fun entry hentry => Prod.ext rfl (eq_patternsOf h hentry)
      _ = (user.map Module.name).map fun name => (name, patternsOf config name) := by
          rw [hnames, List.map_map]
          rfl
      _ = user.map fun m => (m.name, patternsOf config m.name) := List.map_map
  conv_lhs => rw [hconfig]
  rw [List.forall₂_map_left_iff, List.forall₂_same]
  exact forall₂_congr fun m _ => ⟨fun hm => hm.patterns, fun hm => ⟨rfl, hm⟩⟩

/-- The modules of a configuration to which those of options are added are the merged ones. -/
theorem areMerged_iff {user : List Module} (h : (config.map Prod.fst).Nodup) :
    List.Forall₂ IsModule (specs.foldl addModule config) user ↔ AreMerged config specs user := by
  have hnodup : ((specs.foldl addModule config).map Prod.fst).Nodup := nodup_foldl_addModule h
  have hnames := map_fst_foldl_addModule config specs
  constructor
  · intro huser
    have huserNames := names_of_forall₂ huser
    refine ⟨huserNames.trans hnames, huserNames ▸ hnodup, fun m hm => ?_⟩
    rw [← patternsOf_foldl_addModule h]
    exact (forall₂_isModule_iff hnodup huserNames).1 huser m hm
  · rintro ⟨huserNames, -, hpatterns⟩
    rw [forall₂_isModule_iff hnodup (huserNames.trans hnames.symm)]
    intro m hm
    rw [patternsOf_foldl_addModule h]
    exact hpatterns m hm

/-! ## What the modules of a command are -/

variable {a : Arguments} {c : Console} {text : Option String}

/-- The text of the configuration file of a command, if it has one. -/
inductive GivesText (a : Arguments) (c : Console) : Option String → Prop
  | absent (missing : a.value? .modulesConfig = none) : GivesText a c none
  | given {file content : String} (named : a.value? .modulesConfig = some file)
      (stored : c.workspace.files.readText (Path.read file) = .ok content) :
      GivesText a c (some content)

/-- A configuration text with lists or objects that are too deep inside of each other. -/
def IsTooDeep (text : Option String) : Prop :=
  ∃ content isList, text = some content ∧ Json.parse content = .error (.tooDeep isList)

theorem badConfig_readConfig_iff {file content : String} :
    (∃ failure escaped, readConfig file content = .error failure ∧
      badConfig failure = .escaped escaped) ↔ IsTooDeep (some content) := by
  constructor
  · rintro ⟨failure, escaped, hread, hbad⟩
    rw [readConfig] at hread
    rcases bind_eq_error.1 hread with hjson | ⟨document, -, hmodules⟩
    · obtain ⟨cause, hcause, rfl⟩ := failing_eq_error.1 hjson
      cases cause with
      | tooDeep isList => exact ⟨content, isList, rfl, hcause⟩
      | malformed error => cases hbad
      | hugeNumber digits => cases hbad
    · obtain ⟨cause, -, rfl⟩ := failing_eq_error.1 hmodules
      cases hbad
  · rintro ⟨_, isList, ⟨⟩, hdeep⟩
    refine ⟨.json (.tooDeep isList), _, ?_, rfl⟩
    rw [readConfig, hdeep]
    rfl

/-- Reading the configuration of a command gives what its text configures, or complains, unless the
text is too deep. -/
theorem readConfigFile_ends (h : GivesText a c text) :
    (readConfigFile (a.value? .modulesConfig)).Ends c (Configures text) (IsTooDeep text) := by
  cases h with
  | absent missing =>
    rw [missing]
    refine (Action.Ends.pure [] c).congr (fun config => ?_) (by simp [IsTooDeep])
    constructor
    · rintro rfl
      exact .absent
    · rintro ⟨⟩
      rfl
  | given named stored =>
    rename_i file content
    rw [named]
    have hload : (Action.session .escaped (loadConfig file)).run c =
        (.ok (readConfig file content), c) := by
      have hrun : (loadConfig file).run c.workspace =
          (.ok (readConfig file content), c.workspace) := by
        rw [loadConfig, run_bind_of_ok (Session.run_readText stored)]
        rfl
      rw [run_session, hrun]
      rfl
    have hrun : (readConfigFile (some file)).run c =
        ((readConfig file content).mapError badConfig, c) := run_bind_of_ok hload
    refine (Action.Ends.of_run hrun).congr (fun config => ?_) ?_
    · rw [mapError_eq_ok, readConfig_eq_ok_iff]
    · rw [← badConfig_readConfig_iff]
      simp only [mapError_eq_error]
      exact exists_comm

/-- Reading the options of a command gives what they stand for, or complains. -/
theorem readSpecs_ends (verb : Verb) (given : List String) (c : Console) :
    (given.mapM fun spec => match readModule spec with
      | .ok m => (pure m : Action (String × List String))
      | .error message =>
        Action.complain (.usage (some verb) ("Invalid value: " ++ message))).Ends c
      (List.Forall₂ IsSpec given) False := by
  refine Action.Ends.mapM fun spec _ => ?_
  cases hread : readModule spec with
  | ok m =>
    refine (Action.Ends.pure m c).congr (fun m' => ?_) Iff.rfl
    rw [← readModule_eq_ok_iff, hread, Except.ok.injEq]
  | error message =>
    refine (Action.Ends.complain _ c).congr (fun m' => ?_) Iff.rfl
    rw [← readModule_eq_ok_iff, hread]
    simp

theorem forall₂_isSpec_iff {given : List String} :
    List.Forall₂ IsSpec given specs ↔ given.mapM readModule = .ok specs := by
  simp only [mapM_eq_ok_iff, readModule_eq_ok_iff]

theorem exists_specs_iff {given : List String} :
    (∃ specs, List.Forall₂ IsSpec given specs) ↔ ∀ spec ∈ given, ¬IsBadSpec spec := by
  simp only [forall₂_isSpec_iff, exists_mapM_iff, readModule_eq_ok_iff, exists_isSpec_iff]

theorem mem_specs_iff {given : List String} (h : List.Forall₂ IsSpec given specs) :
    m ∈ specs ↔ ∃ spec ∈ given, IsSpec spec m := by
  simp only [← readModule_eq_ok_iff]
  exact mem_mapM_iff (forall₂_isSpec_iff.1 h) m

/-- The modules that a command knows. -/
inductive IsConfigured (a : Arguments) (text : Option String) : List Module → Prop
  | intro {specs config : Config} {user : List Module}
      (options : List.Forall₂ IsSpec (a.values .module) specs)
      (configures : Configures text config) (merged : AreMerged config specs user) :
      IsConfigured a text (user ++ predefined)

/-- The command lines that are to be complained about: with an option that stands for no module, a
configuration that cannot be used, or a pattern in which nothing but slashes is left. -/
inductive IsRefused (a : Arguments) (text : Option String) : Prop
  | option {spec : String} (given : spec ∈ a.values .module) (bad : IsBadSpec spec)
  | config {content : String} (given : text = some content) (unusable : IsUnusable content)
  | configPattern {config : Config} {entry : String × List String} {pattern : String}
      (configures : Configures text config) (stated : entry ∈ config) (listed : pattern ∈ entry.2)
      (slashes : ∀ c ∈ Pattern.body pattern, c = '/')
  | optionPattern {spec : String} {m : String × List String} {pattern : String}
      (given : spec ∈ a.values .module) (stands : IsSpec spec m) (listed : pattern ∈ m.2)
      (slashes : ∀ c ∈ Pattern.body pattern, c = '/')

/-- The command lines that end without a complaint: every option stands for a module, and the
configuration is too deep. -/
structure IsUnreported (a : Arguments) (text : Option String) : Prop where
  options : ∀ spec ∈ a.values .module, ¬IsBadSpec spec
  tooDeep : IsTooDeep text

theorem isConfigured_iff {modules : List Module} :
    IsConfigured a text modules ↔
      ∃ specs, List.Forall₂ IsSpec (a.values .module) specs ∧
        ∃ config, Configures text config ∧
          combined (specs.foldl addModule config) = .ok modules := by
  simp only [combined_eq_ok_iff]
  constructor
  · rintro ⟨options, configures, merged⟩
    exact ⟨_, options, _, configures, _, (areMerged_iff configures.nodup).2 merged, rfl⟩
  · rintro ⟨specs, options, config, configures, user, huser, rfl⟩
    exact .intro options configures ((areMerged_iff configures.nodup).1 huser)

/-- A command knows modules unless there is something to complain about. -/
theorem exists_isConfigured_iff : (∃ modules, IsConfigured a text modules) ↔ ¬IsRefused a text := by
  constructor
  · rintro ⟨modules, hmodules⟩ hrefused
    obtain ⟨specs, options, config, configures, hcombined⟩ := isConfigured_iff.1 hmodules
    obtain ⟨hconfig, hspecs⟩ :=
      (forall_mem_foldl_addModule config specs).1 (exists_combined_iff.1 ⟨modules, hcombined⟩)
    cases hrefused with
    | option given bad => exact exists_specs_iff.1 ⟨specs, options⟩ _ given bad
    | config given unusable =>
      subst given
      exact isUnusable_iff.1 unusable ⟨config, configures⟩
    | configPattern configures' stated listed slashes =>
      obtain rfl := configures.unique configures'
      obtain ⟨c, hc, hslash⟩ := hconfig _ stated _ listed
      exact hslash (slashes c hc)
    | optionPattern given stands listed slashes =>
      obtain ⟨c, hc, hslash⟩ := hspecs _ ((mem_specs_iff options).2 ⟨_, given, stands⟩) _ listed
      exact hslash (slashes c hc)
  · intro h
    obtain ⟨specs, options⟩ := exists_specs_iff.2 fun spec given bad => h (.option given bad)
    have hconfig : ∃ config, Configures text config := by
      cases text with
      | none => exact ⟨[], .absent⟩
      | some content =>
        by_contra hnone
        exact h (.config rfl (isUnusable_iff.2 hnone))
    obtain ⟨config, configures⟩ := hconfig
    have hcombined : ∃ modules, combined (specs.foldl addModule config) = .ok modules := by
      rw [exists_combined_iff, forall_mem_foldl_addModule]
      refine ⟨fun entry stated pattern listed => ?_, fun m hm pattern listed => ?_⟩
      · by_contra hslashes
        exact h (.configPattern configures stated listed (by simpa using hslashes))
      · obtain ⟨spec, given, stands⟩ := (mem_specs_iff options).1 hm
        by_contra hslashes
        exact h (.optionPattern given stands listed (by simpa using hslashes))
    obtain ⟨modules, hmodules⟩ := hcombined
    exact ⟨modules, isConfigured_iff.2 ⟨specs, options, config, configures, hmodules⟩⟩

theorem configuredModules_ends (verb : Verb) (h : GivesText a c text) :
    (configuredModules verb a).Ends c (IsConfigured a text) (IsUnreported a text) := by
  unfold configuredModules
  refine ((readSpecs_ends verb (a.values .module) c).bind fun specs _ =>
    (readConfigFile_ends h).bind fun config _ => .demand _ _ c).congr (fun modules => ?_) ?_
  · simp only [failing_eq_ok]
    exact isConfigured_iff.symm
  · constructor
    · rintro (hno | ⟨specs, options, hdeep | ⟨config, -, failure, escaped, -, hreport⟩⟩)
      · exact hno.elim
      · exact ⟨exists_specs_iff.1 ⟨specs, options⟩, hdeep⟩
      · cases hreport
    · rintro ⟨hoptions, hdeep⟩
      obtain ⟨specs, options⟩ := exists_specs_iff.2 hoptions
      exact .inr ⟨specs, options, .inl hdeep⟩

/-- The modules that a command knows are those of the configuration and of the options, merged by
their names, and then the predefined ones. Where it knows none there is a complaint, unless the
configuration is too deep and every option stands for a module: that failure is not reported. -/
theorem configuredModules_settle (verb : Verb) (h : GivesText a c text) :
    (∀ modules, ((configuredModules verb a).run c).1 = .ok modules ↔
      IsConfigured a text modules) ∧
    ((∃ complaint, ((configuredModules verb a).run c).1 = .error (.complaint complaint)) ↔
      IsRefused a text ∧ ¬IsUnreported a text) ∧
    ((∃ failure, ((configuredModules verb a).run c).1 = .error (.escaped failure)) ↔
      IsUnreported a text) := by
  have hends := configuredModules_ends verb h
  refine ⟨hends.value, hends.complains_iff.trans ?_, hends.escape⟩
  rw [exists_isConfigured_iff, not_not]

/-! ### Options of one module -/

/-- A workspace with a configuration file. -/
def configConsole (content : String) : Console :=
  ⟨⟨⟨[], [(["modules.json"], .file content)]⟩, []⟩, ""⟩

/-- A command line with this file and two options for one module. -/
def netArguments : Arguments :=
  { given := [(.modulesConfig, "modules.json"), (.module, "net=client"),
      (.module, " net=server/*, ,web")] }

theorem givesText_configConsole {content : String} (h : '\r' ∉ content.toList) :
    GivesText netArguments (configConsole content) (some content) := by
  have hstored : (configConsole content).workspace.files.readText (Path.read "modules.json") =
      .ok (String.ofList (Text.foldEndings content.toList)) := rfl
  rw [Text.foldEndings_eq_self_iff.2 h, String.ofList_toList] at hstored
  exact .given rfl hstored

theorem parse_emptyObject : Json.parse "\x7b\x7d" = .ok (.obj []) := by
  cbv

/-- The options of one module are merged; with a file that is too deep the command ends without a
complaint. -/
theorem configuredModules_settle_net :
    ((configuredModules .gen netArguments).run (configConsole "\x7b\x7d")).1 =
        .ok (⟨"net", [⟨["client"], false⟩, ⟨["server"], true⟩, ⟨["web"], false⟩]⟩ :: predefined) ∧
    ∃ failure, ((configuredModules .gen netArguments).run (configConsole
      (String.ofList (List.replicate (Json.depthLimit + 1) '[')))).1 =
        .error (.escaped failure) := by
  have hoptions : List.Forall₂ IsSpec (netArguments.values .module)
      [("net", ["client"]), ("net", ["server/*", "web"])] :=
    .cons (readModule_eq_ok_iff.1 (by decide)) (.cons (readModule_eq_ok_iff.1 (by decide)) .nil)
  have hbad : ∀ spec ∈ netArguments.values .module, ¬IsBadSpec spec :=
    exists_specs_iff.1 ⟨_, hoptions⟩
  have hmerged : AreMerged [] [("net", ["client"]), ("net", ["server/*", "web"])]
      [⟨"net", [⟨["client"], false⟩, ⟨["server"], true⟩, ⟨["web"], false⟩]⟩] := by
    refine ⟨by decide, by decide, fun m hm => ?_⟩
    obtain rfl := List.mem_singleton.1 hm
    exact .cons (by decide) (.cons (by decide) (.cons (by decide) .nil))
  have hdeep : IsTooDeep (some (String.ofList (List.replicate (Json.depthLimit + 1) '['))) :=
    ⟨_, true, rfl, Json.parse_replicate (Nat.lt_succ_self _)⟩
  have hempty : GivesText netArguments (configConsole "\x7b\x7d") (some "\x7b\x7d") :=
    givesText_configConsole (by decide)
  have hnested : GivesText netArguments
      (configConsole (String.ofList (List.replicate (Json.depthLimit + 1) '[')))
      (some (String.ofList (List.replicate (Json.depthLimit + 1) '['))) :=
    givesText_configConsole (by simp)
  obtain ⟨hvalue, -, -⟩ := configuredModules_settle .gen hempty
  obtain ⟨-, -, hescape⟩ := configuredModules_settle .gen hnested
  exact ⟨(hvalue _).2 (.intro hoptions (.given parse_emptyObject .nil) hmerged),
    hescape.2 ⟨hbad, hdeep⟩⟩

end Protogen.Command
