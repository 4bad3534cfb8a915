import ModelReach.Proofs.Catalogue.Keys
import ModelReach.Proofs.Facts.Module

/-! A catalogue that files are read into and references resolved in, in any order. Each well-formed reference is
resolved to what it stands for among the classes read so far, and goes on to be until the next file is read. -/
namespace ModelReach.Catalogue
set_option autoImplicit false

open Files (FileTree ModuleFile)

variable {loads : List ModuleFacts} {c d : Catalogue} {t : FileTree} {file : ModuleFile} {r : TypeRef}

/-! ## What a reference stands for -/

/-- The class read last under a name. -/
def lastClass (loads : List ModuleFacts) (name : String) : Option Descriptor :=
  (numbered 0 (classesIn loads)).reverse.find? (·.key == name)

/-- A name under which no class stands: a primitive type or a foreign one. -/
def outsider (name : String) : Descriptor :=
  .leaf ⟨if primitiveTypes.contains name then .primitive else .other, name, name, Dotted.parent name, []⟩

mutual

/-- What a reference stands for, when these files have been read. -/
def mirror (loads : List ModuleFacts) : TypeRef → Descriptor
  | .named name => (lastClass loads name).getD (outsider name)
  | .array element unique => .array (TypeRef.key (.array element unique)) (mirror loads element) unique
  | .generic origin args => .generic (TypeRef.key (.generic origin args)) origin (mirrors loads args)

def mirrors (loads : List ModuleFacts) : List TypeRef → List Descriptor
  | [] => []
  | r :: rest => mirror loads r :: mirrors loads rest

end

/-! ## Keys of classes -/

/-- These are facts about files. -/
def Extracted (loads : List ModuleFacts) : Prop :=
  ∀ facts ∈ loads, ∃ (t : FileTree) (file : ModuleFile), readFacts t file = .ok facts

theorem extracted_nil : Extracted [] := fun _ h => absurd h List.not_mem_nil

theorem Extracted.concat (h : Extracted loads) {facts : ModuleFacts} (hfacts : readFacts t file = .ok facts) :
    Extracted (loads ++ [facts]) := by
  intro g hg
  rcases List.mem_append.mp hg with hg | hg
  · exact h g hg
  · rw [List.mem_singleton.mp hg]
    exact ⟨t, file, hfacts⟩

/-- What is read of one file, if it can be read. -/
theorem extracted_toList (t : FileTree) (file : ModuleFile) : Extracted (readFacts t file).toOption.toList := by
  intro facts hfacts
  cases hread : readFacts t file with
  | ok found =>
    rw [hread] at hfacts
    exact ⟨t, file, hread.trans (congrArg _ (List.mem_singleton.mp hfacts).symm)⟩
  | error cause =>
    rw [hread] at hfacts
    exact absurd hfacts List.not_mem_nil

/-- The key of a class ends with an identifier, not with a bracket. -/
theorem Extracted.getLast?_key_ne (h : Extracted loads) {x : Descriptor} (hx : Registered loads x) :
    x.key.toList.getLast? ≠ some ']' := by
  obtain ⟨n, f, hf, rfl⟩ := hx
  obtain ⟨facts, hfacts, hclass⟩ := List.mem_flatMap.mp (List.mem_of_getElem? hf)
  obtain ⟨t, file, hread⟩ := h facts hfacts
  obtain ⟨body, hbody⟩ := readFacts_ok hread
  obtain ⟨_, name, hname⟩ := (Facts.moduleFacts_ok hbody).2 f hclass
  have hkey : (Descriptor.declared n f).key.toList = f.module.toList ++ '.' :: name.text.toList := by
    rw [Descriptor.key, ClassFacts.qualifiedName, hname]
    exact Dotted.toList_join f.module name.text
  rw [hkey, List.getLast?_append_of_ne_nil _ (List.cons_ne_nil _ _)]
  intro hlast
  rcases List.mem_cons.mp (List.mem_of_getLast? hlast) with hpoint | hin
  · exact absurd hpoint (by decide)
  · exact name.unmarked.2 hin

/-- No class stands under the key of a type made of others. -/
theorem Extracted.lookup_of_inside (h : Extracted loads) (hr : r.inside ≠ []) :
    (loaded loads).resolved.lookup r.key = none := by
  rw [loaded_resolved]
  cases hg : (loaded loads).declared.lookup r.key with
  | none => rfl
  | some x =>
    refine absurd (TypeRef.getLast?_key_of_inside hr) ?_
    rw [← key_of_get? hg]
    exact h.getLast?_key_ne (registered_of_get? hg)

mutual

theorem Extracted.denoted_eq (h : Extracted loads) : ∀ r : TypeRef, denoted loads r = mirror loads r
  | .named name => by
    rw [denoted, meaning, mirror, loaded_resolved, lastClass, ← loaded_get?]
    rfl
  | .array element unique => by
    rw [denoted, meaning, h.lookup_of_inside (r := .array element unique) (List.cons_ne_nil _ _), Option.getD_none,
      mirror, ← h.denoted_eq element, denoted]
  | .generic origin args => by
    rw [denoted, meaning, h.lookup_of_inside (r := .generic origin args) (List.cons_ne_nil _ _), Option.getD_none,
      mirror, ← h.denoteds_eq args, meanings_eq_map]
    rfl

theorem Extracted.denoteds_eq (h : Extracted loads) :
    ∀ refs : List TypeRef, refs.map (denoted loads) = mirrors loads refs
  | [] => rfl
  | r :: refs => by rw [List.map_cons, mirrors, h.denoted_eq r, h.denoteds_eq refs]

end

/-! ## Steps -/

/-- What asking for the classes of a file registers: its facts, if it was not read before and can be read. -/
def registering (t : FileTree) (file : ModuleFile) (c : Catalogue) : List ModuleFacts :=
  match c.modules.lookup file.path with
  | some _ => []
  | none => (readFacts t file).toOption.toList

/-- Catalogues that come from the empty one by asking for the classes of files and by resolving well-formed
references, with the facts registered on the way. -/
inductive Reached : List ModuleFacts → Catalogue → Prop
  | start : Reached [] .empty
  | declare {loads : List ModuleFacts} {c : Catalogue} (h : Reached loads c) (t : FileTree) (file : ModuleFile) :
    Reached (loads ++ registering t file c) (c.declaredTypes t file).2
  | resolve {loads : List ModuleFacts} {c : Catalogue} (h : Reached loads c) {r : TypeRef}
    (hr : r.isWellFormed = true) : Reached loads (resolve r c).2

/-- Steps that register nothing. -/
inductive Quiet : Catalogue → Catalogue → Prop
  | refl (c : Catalogue) : Quiet c c
  | declare {c d : Catalogue} (h : Quiet c d) {t : FileTree} {file : ModuleFile} (hnone : registering t file d = []) :
    Quiet c (d.declaredTypes t file).2
  | resolve {c d : Catalogue} (h : Quiet c d) {r : TypeRef} (hr : r.isWellFormed = true) : Quiet c (resolve r d).2

/-- Asking for the classes of a file registers its facts, or changes nothing but the failures. -/
theorem declaredTypes_cases (t : FileTree) (file : ModuleFile) (c : Catalogue) :
    (∃ facts, readFacts t file = .ok facts ∧ registering t file c = [facts] ∧
      (c.declaredTypes t file).2 = c.register facts) ∨
    (registering t file c = [] ∧ ∃ failures, (c.declaredTypes t file).2 = { c with failures := failures }) := by
  unfold registering Catalogue.declaredTypes
  cases c.modules.lookup file.path with
  | some module => exact Or.inr ⟨rfl, c.failures, rfl⟩
  | none =>
    cases hread : readFacts t file with
    | ok facts => exact Or.inl ⟨facts, rfl, rfl, rfl⟩
    | error cause =>
      refine Or.inr ⟨rfl, ?_⟩
      cases cause with
      | file fault => exact ⟨_, rfl⟩
      | encoding fault => exact ⟨_, rfl⟩
      | source fault =>
        cases hfault : fault.isLoadFailure with
        | true => exact ⟨assign c.failures file.path fault.message, by simp only [hfault, if_true]; rfl⟩
        | false => exact ⟨c.failures, by simp only [hfault]; rfl⟩

/-! ## What steps preserve -/

/-- The types resolved so far and the failures are all that tells a catalogue from one that was just loaded, and the
table holds well-formed references alone, each with what it stands for. -/
structure Faithful (loads : List ModuleFacts) (c : Catalogue) : Prop where
  extracted : Extracted loads
  rest : ∃ resolved failures, c = { loaded loads with resolved := resolved, failures := failures }
  sound : Sound loads c
  denotes : Denotes (·.isWellFormed = true) loads c.resolved

theorem faithful_start : Faithful [] .empty where
  extracted := extracted_nil
  rest := ⟨[], [], rfl⟩
  sound := sound_loaded []
  denotes := denotes_loaded

theorem Faithful.register (h : Faithful loads c) {facts : ModuleFacts} (hread : readFacts t file = .ok facts) :
    Faithful (loads ++ [facts]) (c.register facts) := by
  obtain ⟨resolved, failures, hc⟩ := h.rest
  have hregister : c.register facts = { loaded (loads ++ [facts]) with failures := failures } := by
    rw [hc, loaded_concat]
    rfl
  refine ⟨h.extracted.concat hread, ⟨(loaded (loads ++ [facts])).resolved, failures, hregister⟩, ?_, ?_⟩
  · rw [hregister]
    exact (sound_loaded _).failures failures
  · rw [hregister]
    exact denotes_loaded

theorem Faithful.failures (h : Faithful loads c) (failures : List (String × Option String)) :
    Faithful loads { c with failures := failures } where
  extracted := h.extracted
  rest := by
    obtain ⟨resolved, _, hc⟩ := h.rest
    exact ⟨resolved, failures, by rw [hc]⟩
  sound := h.sound.failures failures
  denotes := h.denotes

/-- Resolving references changes the table of resolved types alone. -/
def Resolutive {α : Type} (x : StateM Catalogue α) : Prop :=
  ∀ c : Catalogue, ∃ resolved, (x c).2 = { c with resolved := resolved }

theorem Resolutive.bind {α β : Type} {x : StateM Catalogue α} {f : α → StateM Catalogue β} (hx : Resolutive x)
    (hf : ∀ a, Resolutive (f a)) : Resolutive (x >>= f) := by
  intro c
  obtain ⟨middle, hmiddle⟩ := hx c
  obtain ⟨last, hlast⟩ := hf (x c).1 (x c).2
  refine ⟨last, ?_⟩
  change (f (x c).1 (x c).2).2 = _
  rw [hlast, hmiddle]

theorem resolutive_pure {α : Type} (a : α) : Resolutive (pure a) := fun c => ⟨c.resolved, rfl⟩

theorem resolutive_keptOr (key : String) {make : StateM Catalogue Descriptor} (h : Resolutive make) :
    Resolutive (keptOr key make) := by
  intro c
  unfold keptOr
  cases c.resolved.lookup key with
  | some x => exact ⟨c.resolved, rfl⟩
  | none => exact (h.bind fun x c => ⟨assign c.resolved key x, rfl⟩) c

mutual

theorem resolutive_resolve : ∀ r : TypeRef, Resolutive (resolve r)
  | .named name => by
    rw [resolve]
    exact resolutive_keptOr name (resolutive_pure _)
  | .array element unique => by
    rw [resolve]
    exact resolutive_keptOr _ ((resolutive_resolve element).bind fun _ => resolutive_pure _)
  | .generic origin args => by
    rw [resolve]
    exact resolutive_keptOr _ ((resolutive_resolveAll args).bind fun _ => resolutive_pure _)

theorem resolutive_resolveAll : ∀ refs : List TypeRef, Resolutive (resolveAll refs)
  | [] => resolutive_pure []
  | r :: refs => by
    rw [resolveAll]
    exact (resolutive_resolve r).bind fun _ => (resolutive_resolveAll refs).bind fun _ => resolutive_pure _

end

theorem Faithful.denotes_resolve (h : Faithful loads c) (hr : r.isWellFormed = true) :
    (resolve r c).1 = denoted loads r ∧ Denotes (·.isWellFormed = true) loads (resolve r c).2.resolved :=
  Catalogue.denotes_resolve TypeRef.keyed_isWellFormed r c (TypeRef.isWellFormed_parts r hr) h.denotes

theorem Faithful.resolve (h : Faithful loads c) (hr : r.isWellFormed = true) : Faithful loads (resolve r c).2 where
  extracted := h.extracted
  rest := by
    obtain ⟨_, failures, hc⟩ := h.rest
    obtain ⟨resolved, hresolved⟩ := resolutive_resolve r c
    exact ⟨resolved, failures, by rw [hresolved, hc]⟩
  sound := (resolving_resolve r h.sound).sound
  denotes := (h.denotes_resolve hr).2

theorem Faithful.declare (h : Faithful loads c) (t : FileTree) (file : ModuleFile) :
    Faithful (loads ++ registering t file c) (c.declaredTypes t file).2 := by
  rcases declaredTypes_cases t file c with ⟨facts, hread, hregistering, hafter⟩ | ⟨hregistering, failures, hafter⟩
  · rw [hregistering, hafter]
    exact h.register hread
  · rw [hregistering, hafter, List.append_nil]
    exact h.failures failures

theorem Reached.faithful (h : Reached loads c) : Faithful loads c := by
  induction h with
  | start => exact faithful_start
  | declare _ t file ih => exact ih.declare t file
  | resolve _ hr ih => exact ih.resolve hr

/-- Quiet steps lose no type that was resolved. -/
theorem Quiet.keeps (h : Quiet c d) (hc : Faithful loads c) : Faithful loads d ∧ Extends c.resolved d.resolved := by
  induction h with
  | refl => exact ⟨hc, Extends.refl _⟩
  | @declare e _ t file hnone ih =>
    obtain ⟨he, hmore⟩ := ih
    rcases declaredTypes_cases t file e with ⟨facts, _, hsome, _⟩ | ⟨_, failures, hafter⟩
    · rw [hnone] at hsome
      cases hsome
    · rw [hafter]
      exact ⟨he.failures failures, hmore⟩
  | resolve _ hr ih =>
    obtain ⟨he, hmore⟩ := ih
    exact ⟨he.resolve hr, hmore.trans (resolving_resolve _ he.sound).more⟩

/-- A type that is kept is given again, and nothing is made. -/
theorem resolve_of_lookup {x : Descriptor} (h : c.resolved.lookup r.key = some x) :
    Catalogue.resolve r c = (x, c) := by
  have hkept (make : StateM Catalogue Descriptor) : keptOr r.key make c = (x, c) := by
    unfold keptOr
    rw [h]
  cases r with
  | named name =>
    rw [Catalogue.resolve]
    exact hkept _
  | array element unique =>
    rw [Catalogue.resolve]
    exact hkept _
  | generic origin args =>
    rw [Catalogue.resolve]
    exact hkept _

/-! ## The table is never stale -/

/-- However files were read and references resolved before, a well-formed reference is resolved to a type with its
key, which is what it stands for among the classes registered at that moment. And as long as no further file is read,
the very type that was kept is given again. -/
theorem resolve_mirrors (h : Reached loads c) (hr : r.isWellFormed = true) :
    (resolve r c).1.key = r.key ∧ (resolve r c).1 = mirror loads r ∧
    ∀ d, Quiet (resolve r c).2 d → d.resolved.lookup r.key = some (resolve r c).1 ∧
      resolve r d = ((resolve r c).1, d) := by
  have hc := h.faithful
  have hresolving := resolving_resolve r hc.sound
  have hheld : (resolve r c).2.resolved.lookup r.key = some (resolve r c).1 :=
    (List.forall₂_cons.mp hresolving.held).1
  refine ⟨List.head_eq_of_cons_eq hresolving.keys, ?_, fun d hd => ?_⟩
  · rw [(hc.denotes_resolve hr).1, hc.extracted.denoted_eq]
  · have hkept := (hd.keeps (hc.resolve hr)).2 _ _ hheld
    exact ⟨hkept, resolve_of_lookup hkept⟩

/-! ## An array whose elements become known -/

def letterTree : FileTree :=
  ⟨[(["r"], .directory), (["r", "m.py"], .file (Text.ofString "class A:\n  pass\n"))], [], []⟩

def letterFile : ModuleFile := ⟨"/r/m.py", "m.py", "m", false⟩

def letterArray : TypeRef := .array (.named "m.A") false

/-- The array has been asked for before the file is read. -/
def lettersBefore : Catalogue := (resolve letterArray .empty).2

def lettersAfter : Catalogue := (lettersBefore.declaredTypes letterTree letterFile).2

/-- The elements are of a foreign type first, and then of the class that was read. -/
theorem resolve_mirrors_letters :
    ((resolve letterArray .empty).1.element?.map Descriptor.module? = some none) ∧
    Reached (registering letterTree letterFile lettersBefore) lettersAfter ∧ letterArray.isWellFormed = true ∧
    (resolve letterArray lettersAfter).1.key = "list[m.A]" ∧
    (resolve letterArray lettersAfter).1 = mirror (registering letterTree letterFile lettersBefore) letterArray ∧
    (resolve letterArray lettersAfter).1.element?.map Descriptor.module? = some (some "m") ∧
    ∀ d, Quiet (resolve letterArray lettersAfter).2 d →
      d.resolved.lookup "list[m.A]" = some (resolve letterArray lettersAfter).1 ∧
      resolve letterArray d = ((resolve letterArray lettersAfter).1, d) := by
  have hwell : letterArray.isWellFormed = true := by decide +kernel
  have hreached : Reached (registering letterTree letterFile lettersBefore) lettersAfter :=
    (Reached.start.resolve hwell).declare letterTree letterFile
  obtain ⟨hkey, hmirror, hquiet⟩ := resolve_mirrors hreached hwell
  exact ⟨by decide +kernel, hreached, hwell, hkey, hmirror, by decide +kernel, hquiet⟩

end ModelReach.Catalogue
