import FrpXtcp.Config.Store

/-!
# Store mutations are all or nothing

A mutator changes memory before it saves, and saving has seven places to fail. Whatever
fails, the error comes back with both maps and the store file as they were; if nothing fails,
both have the new entry. `Contents` and `Call.apply` say what a call is for, without the file
and without the undoing.
-/
namespace FrpXtcp.Config

open FrpXtcp.Lib
open FrpXtcp.Client (ProxyConfig VisitorConfig)

/-- What the two maps say. -/
@[ext] structure Contents where
  proxies : String → Option ProxyConfig
  visitors : String → Option VisitorConfig

def BaseSource.contents (b : BaseSource) : Contents := ⟨b.proxies.get?, b.visitors.get?⟩

section Apply

variable {T : Type} [Configurer T] (entries : String → Option T)

/-- The entry of a configuration with a name is set, if there was one before as asked. -/
def setEntry (present : Bool) : Option T → Option (String → Option T)
  | none => none
  | some cfg =>
    if Configurer.name cfg ≠ "" ∧ (entries (Configurer.name cfg)).isSome = present then
      some (Function.update entries (Configurer.name cfg) (some cfg))
    else none

def addEntry : Option T → Option (String → Option T) := setEntry entries false

def updateEntry : Option T → Option (String → Option T) := setEntry entries true

def removeEntry {T : Type} (entries : String → Option T) (name : String) :
    Option (String → Option T) :=
  if name ≠ "" ∧ (entries name).isSome then some (Function.update entries name none) else none

end Apply

/-- What a call is for: the contents with the named entry added, replaced or removed, or
`none` where there is nothing to do that for. -/
def Call.apply (c : Contents) : Call → Option Contents
  | .addProxy proxy => (addEntry c.proxies proxy).map fun e => { c with proxies := e }
  | .updateProxy proxy => (updateEntry c.proxies proxy).map fun e => { c with proxies := e }
  | .removeProxy name => (removeEntry c.proxies name).map fun e => { c with proxies := e }
  | .addVisitor visitor => (addEntry c.visitors visitor).map fun e => { c with visitors := e }
  | .updateVisitor visitor => (updateEntry c.visitors visitor).map fun e => { c with visitors := e }
  | .removeVisitor name => (removeEntry c.visitors name).map fun e => { c with visitors := e }

/-- The proxy that a call names. -/
def Call.proxyName : Call → Option String
  | .addProxy proxy | .updateProxy proxy => proxy.map Configurer.name
  | .removeProxy name => some name
  | _ => none

/-- The visitor that a call names. -/
def Call.visitorName : Call → Option String
  | .addVisitor visitor | .updateVisitor visitor => visitor.map Configurer.name
  | .removeVisitor name => some name
  | _ => none

variable {Raw Text : Type}

/-- The text is what saving the maps gives, in some order of the entries. -/
def Serializes (codec : Codec Raw Text) (b : BaseSource) (text : Text) : Prop :=
  ∃ ps vs, ps.Perm b.proxies.values ∧ vs.Perm b.visitors.values ∧
    codec.marshalIndent ps vs = .ok text

/-- The store file. -/
def State.file (s : State Text) : Option Text := s.disk s.source.config.path

/-- The file holds the maps, or there is none and the maps are empty. -/
def Synced (codec : Codec Raw Text) (s : State Text) : Prop :=
  (∃ text, s.file = some text ∧ Serializes codec s.source.toBaseSource text) ∨
    (s.file = none ∧ s.source.contents = ⟨fun _ => none, fun _ => none⟩)

theorem Serializes.congr {codec : Codec Raw Text} {b b' : BaseSource} {text : Text}
    (h : Serializes codec b text) (hc : b'.contents = b.contents) : Serializes codec b' text := by
  obtain ⟨ps, vs, hps, hvs, htext⟩ := h
  have hproxies : b.proxies.values.Perm b'.proxies.values :=
    (GoMap.perm_of_get? fun k => (congrFun (congrArg Contents.proxies hc) k).symm).map Prod.snd
  have hvisitors : b.visitors.values.Perm b'.visitors.values :=
    (GoMap.perm_of_get? fun k => (congrFun (congrArg Contents.visitors hc) k).symm).map Prod.snd
  exact ⟨ps, vs, hps.trans hproxies, hvs.trans hvisitors, htext⟩

section Save

variable {codec : Codec Raw Text} {env : Env Text}

theorem tmpPath_ne (s : StoreSource) : tmpPath s ≠ s.config.path := by
  intro h
  have hlen := congrArg String.length h
  rw [tmpPath, String.length_append] at hlen
  have : ".tmp".length = 4 := by decide
  omega

theorem removeTmp_path (s : StoreSource) (disk : Disk Text) :
    removeTmp env s disk s.config.path = disk s.config.path := by
  unfold removeTmp
  split
  · exact Function.update_of_ne (tmpPath_ne s).symm _ _
  · rfl

theorem update_tmpPath (s : StoreSource) (disk : Disk Text) (text : Option Text) :
    Function.update disk (tmpPath s) text s.config.path = disk s.config.path :=
  Function.update_of_ne (tmpPath_ne s).symm _ _

/-- No call to the operating system fails, and every pair of lists can be marshalled. -/
structure NoFailure (codec : Codec Raw Text) (env : Env Text) : Prop where
  marshal : ∀ ps vs, ∃ text, codec.marshalIndent ps vs = .ok text
  mkdirAll : env.answers.mkdirAll = none
  openFile : env.answers.openFile = none
  write : env.answers.write = none
  sync : env.answers.sync = none
  close : env.answers.close = none
  rename : env.answers.rename = none

/-- Saving fails and leaves the store file alone, or succeeds with the maps in the file. -/
theorem saveToFileUnlocked_cases (codec : Codec Raw Text) (env : Env Text) (s : StoreSource)
    (disk : Disk Text) :
    (∃ err disk', saveToFileUnlocked codec env s disk = (some err, disk') ∧
      disk' s.config.path = disk s.config.path ∧ ¬ NoFailure codec env) ∨
    (∃ text disk', saveToFileUnlocked codec env s disk = (none, disk') ∧
      disk' s.config.path = some text ∧ Serializes codec s.toBaseSource text) := by
  unfold saveToFileUnlocked
  cases hm : codec.marshalIndent (env.order.proxies s.proxies.values).val
      (env.order.visitors s.visitors.values).val with
  | error err =>
    refine Or.inl ⟨_, _, rfl, rfl, fun hno => ?_⟩
    obtain ⟨text, htext⟩ := hno.marshal _ _
    rw [hm] at htext
    cases htext
  | ok data =>
    cases hmkdir : env.answers.mkdirAll with
    | some err => exact Or.inl ⟨_, _, rfl, rfl, fun hno => by cases hmkdir.symm.trans hno.mkdirAll⟩
    | none =>
    cases hopen : env.answers.openFile with
    | some err => exact Or.inl ⟨_, _, rfl, rfl, fun hno => by cases hopen.symm.trans hno.openFile⟩
    | none =>
    cases hwrite : env.answers.write with
    | some err =>
      refine Or.inl ⟨_, _, rfl, ?_, fun hno => by cases hwrite.symm.trans hno.write⟩
      rw [removeTmp_path, update_tmpPath, update_tmpPath]
    | none =>
    cases hsync : env.answers.sync with
    | some err =>
      refine Or.inl ⟨_, _, rfl, ?_, fun hno => by cases hsync.symm.trans hno.sync⟩
      rw [removeTmp_path, update_tmpPath, update_tmpPath]
    | none =>
    cases hclose : env.answers.close with
    | some err =>
      refine Or.inl ⟨_, _, rfl, ?_, fun hno => by cases hclose.symm.trans hno.close⟩
      rw [removeTmp_path, update_tmpPath, update_tmpPath]
    | none =>
    cases hrename : env.answers.rename with
    | some err =>
      refine Or.inl ⟨_, _, rfl, ?_, fun hno => by cases hrename.symm.trans hno.rename⟩
      rw [removeTmp_path, update_tmpPath, update_tmpPath]
    | none =>
      refine Or.inr ⟨data, _, rfl, ?_, _, _, (env.order.proxies _).property,
        (env.order.visitors _).property, hm⟩
      simp [renameTmp]

end Save

section Outcome

/-- The result of a mutator that is to change the store by `change`. -/
structure Outcome (codec : Codec Raw Text) (env : Env Text) (s : State Text)
    (change : Option (StoreSource → StoreSource)) (r : State Text × Option String) : Prop where
  config : r.1.source.config = s.source.config
  nil : r.2 = none → ∃ f, change = some f ∧ r.1.source = f s.source ∧
    ∃ text, r.1.file = some text ∧ Serializes codec r.1.source.toBaseSource text
  error : ∀ err, r.2 = some err →
    r.1.source.contents = s.source.contents ∧ r.1.file = s.file
  succeeds : NoFailure codec env → change ≠ none → r.2 = none

variable {codec : Codec Raw Text} {env : Env Text} {s : State Text}

theorem Outcome.refused (err : String) : Outcome codec env s none (s, some err) :=
  ⟨rfl, nofun, fun _ _ => ⟨rfl, rfl⟩, fun _ h => absurd rfl h⟩

/-- Saving after a change, with an undoing that brings the contents back. -/
theorem persistOrRollback_outcome {change rollback : StoreSource → StoreSource}
    (hchange : (change s.source).config = s.source.config)
    (hrollback : (rollback (change s.source)).config = s.source.config)
    (hback : (rollback (change s.source)).contents = s.source.contents) :
    Outcome codec env s (some change)
      (persistOrRollbackUnlocked codec env rollback { s with source := change s.source }) := by
  unfold persistOrRollbackUnlocked
  rcases saveToFileUnlocked_cases codec env (change s.source) s.disk with
    ⟨err, disk, hsave, hfile, hfail⟩ | ⟨text, disk, hsave, hfile, htext⟩
  · simp only [hsave]
    refine ⟨hrollback, nofun, fun _ _ => ⟨hback, ?_⟩, fun hno => absurd hno hfail⟩
    show disk (rollback (change s.source)).config.path = s.disk s.source.config.path
    rw [hrollback, ← hchange]
    exact hfile
  · simp only [hsave]
    exact ⟨hchange, fun _ => ⟨change, rfl, rfl, text, hfile, htext⟩, nofun, fun _ _ => rfl⟩

/-- The same with what the change does to the contents. -/
def Does (codec : Codec Raw Text) (env : Env Text) (s : State Text) (c : Option Contents)
    (r : State Text × Option String) : Prop :=
  ∃ change, Outcome codec env s change r ∧ c = change.map fun f => (f s.source).contents

/-- A selector changes its map and nothing else; `put` is the same on the contents. -/
structure Selector.Lawful {T : Type} (entriesFn : Selector T)
    (put : Contents → (String → Option T) → Contents) : Prop where
  config : ∀ f s, (entriesFn.modify f s).config = s.config
  entries : ∀ f s, entriesFn.entries (entriesFn.modify f s) = f (entriesFn.entries s)
  contents : ∀ f s,
    (entriesFn.modify f s).contents = put s.contents (f (entriesFn.entries s)).get?
  put_put : ∀ c e e', put (put c e) e' = put c e'
  put_self : ∀ s : StoreSource, put s.contents (entriesFn.entries s).get? = s.contents

theorem proxyStoreEntries_lawful :
    proxyStoreEntries.Lawful fun c e => { c with proxies := e } := by
  constructor <;> intros <;> rfl

theorem visitorStoreEntries_lawful :
    visitorStoreEntries.Lawful fun c e => { c with visitors := e } := by
  constructor <;> intros <;> rfl

section Mutator

variable {T : Type} {entriesFn : Selector T} {put : Contents → (String → Option T) → Contents}
  (hlawful : entriesFn.Lawful put)

include hlawful

theorem Selector.Lawful.undo {f g : GoMap String T → GoMap String T} (s : StoreSource)
    (h : ∀ n, (g (f (entriesFn.entries s))).get? n = (entriesFn.entries s).get? n) :
    (entriesFn.modify g (entriesFn.modify f s)).contents = s.contents := by
  rw [hlawful.contents, hlawful.entries, hlawful.contents, hlawful.put_put, funext h,
    hlawful.put_self]

/-- A change of a map that is saved and can be undone. -/
theorem persist_modify_outcome {f g : GoMap String T → GoMap String T}
    (h : ∀ n, (g (f (entriesFn.entries s.source))).get? n =
      (entriesFn.entries s.source).get? n) :
    Outcome codec env s (some (entriesFn.modify f))
      (persistOrRollbackUnlocked codec env (entriesFn.modify g)
        { s with source := entriesFn.modify f s.source }) := by
  apply persistOrRollback_outcome (hlawful.config _ _)
  · rw [hlawful.config, hlawful.config]
  · exact hlawful.undo s.source h

/-- A saved insertion replaces the entry in the contents. -/
theorem contents_insert (s : StoreSource) (name : String) (value : T) :
    (entriesFn.modify (·.insert name value) s).contents =
      put s.contents (Function.update (entriesFn.entries s).get? name (some value)) := by
  rw [hlawful.contents]
  congr 1
  funext n
  rw [GoMap.get?_insert, Function.update_apply]

theorem contents_erase (s : StoreSource) (name : String) :
    (entriesFn.modify (·.erase name) s).contents =
      put s.contents (Function.update (entriesFn.entries s).get? name none) := by
  rw [hlawful.contents]
  congr 1
  funext n
  rw [GoMap.get?_erase, Function.update_apply]

variable (kind name : String)

theorem addStoreEntry_does (value : T) :
    Does codec env s
      (if ((entriesFn.entries s.source).get? name).isSome = false then
        some (put s.source.contents
          (Function.update (entriesFn.entries s.source).get? name (some value))) else none)
      (addStoreEntry codec env entriesFn kind name value s) := by
  unfold addStoreEntry
  cases hget : (entriesFn.entries s.source).get? name with
  | some old => exact ⟨none, .refused _, rfl⟩
  | none =>
    refine ⟨_, persist_modify_outcome hlawful ?_, by
      rw [Option.map_some, contents_insert hlawful]; rfl⟩
    intro n
    rw [GoMap.get?_erase, GoMap.get?_insert]
    split
    · rw [‹n = name›, hget]
    · rfl

theorem updateStoreEntry_does (value : T) :
    Does codec env s
      (if ((entriesFn.entries s.source).get? name).isSome = true then
        some (put s.source.contents
          (Function.update (entriesFn.entries s.source).get? name (some value))) else none)
      (updateStoreEntry codec env entriesFn kind name value s) := by
  unfold updateStoreEntry
  cases hget : (entriesFn.entries s.source).get? name with
  | none => exact ⟨none, .refused _, rfl⟩
  | some old =>
    refine ⟨_, persist_modify_outcome hlawful ?_, by
      rw [Option.map_some, contents_insert hlawful]; rfl⟩
    intro n
    rw [GoMap.get?_insert, GoMap.get?_insert]
    split
    · rw [‹n = name›, hget]
    · rfl

theorem removeStoreEntry_does :
    Does codec env s
      ((removeEntry (entriesFn.entries s.source).get? name).map (put s.source.contents))
      (removeStoreEntry codec env entriesFn kind name s) := by
  unfold removeStoreEntry removeEntry
  by_cases hname : name = ""
  · rw [if_pos hname, if_neg (fun h => h.1 hname)]
    exact ⟨none, .refused _, rfl⟩
  · rw [if_neg hname]
    cases hget : (entriesFn.entries s.source).get? name with
    | none => exact ⟨none, .refused _, by rw [if_neg (by simp)]; rfl⟩
    | some old =>
      rw [if_pos ⟨hname, rfl⟩]
      refine ⟨_, persist_modify_outcome hlawful ?_, by
        rw [Option.map_some, Option.map_some, contents_erase hlawful]⟩
      intro n
      rw [GoMap.get?_insert, GoMap.get?_erase]
      split
      · rw [‹n = name›, hget]
      · rfl

omit hlawful in
/-- A mutator behind the check of the name. -/
theorem validated_does [Configurer T] {mutate : String → T → State Text × Option String}
    (present : Bool)
    (h : ∀ name value, Does codec env s
      (if ((entriesFn.entries s.source).get? name).isSome = present then
        some (put s.source.contents
          (Function.update (entriesFn.entries s.source).get? name (some value))) else none)
      (mutate name value)) (cfg : Option T) :
    Does codec env s
      ((setEntry (entriesFn.entries s.source).get? present cfg).map (put s.source.contents))
      (checked (validateName kind cfg) s mutate) := by
  cases cfg with
  | none => exact ⟨none, .refused _, rfl⟩
  | some cfg =>
    simp only [validateName, setEntry, checked]
    by_cases hname : Configurer.name cfg = ""
    · rw [if_pos hname, if_neg (fun h => h.1 hname)]
      exact ⟨none, .refused _, rfl⟩
    · rw [if_neg hname]
      simpa [hname, apply_ite] using h (Configurer.name cfg) cfg

theorem add_does [Configurer T] (cfg : Option T) :
    Does codec env s ((addEntry (entriesFn.entries s.source).get? cfg).map (put s.source.contents))
      (checked (validateName kind cfg) s fun name cfg =>
        addStoreEntry codec env entriesFn kind name cfg s) :=
  validated_does kind false (addStoreEntry_does hlawful kind) cfg

theorem update_does [Configurer T] (cfg : Option T) :
    Does codec env s
      ((updateEntry (entriesFn.entries s.source).get? cfg).map (put s.source.contents))
      (checked (validateName kind cfg) s fun name cfg =>
        updateStoreEntry codec env entriesFn kind name cfg s) :=
  validated_does kind true (updateStoreEntry_does hlawful kind) cfg

end Mutator

/-- Every call does what it is for. -/
theorem call_does (codec : Codec Raw Text) (env : Env Text) (s : State Text) (c : Call) :
    Does codec env s (c.apply s.source.contents) (call codec env s c) := by
  cases c with
  | addProxy proxy => exact add_does proxyStoreEntries_lawful "proxy" proxy
  | updateProxy proxy => exact update_does proxyStoreEntries_lawful "proxy" proxy
  | removeProxy name => exact removeStoreEntry_does proxyStoreEntries_lawful "proxy" name
  | addVisitor visitor => exact add_does visitorStoreEntries_lawful "visitor" visitor
  | updateVisitor visitor => exact update_does visitorStoreEntries_lawful "visitor" visitor
  | removeVisitor name => exact removeStoreEntry_does visitorStoreEntries_lawful "visitor" name

end Outcome

section Frame

/-- What a call can do to one of the two kinds of entries: to the entry of the given name. -/
inductive EntryChange {T : Type} [Configurer T] (entries e : String → Option T) :
    Option String → Prop
  | set {present : Bool} {cfg : Option T} :
      setEntry entries present cfg = some e → EntryChange entries e (cfg.map Configurer.name)
  | remove {name : String} :
      removeEntry entries name = some e → EntryChange entries e (some name)

theorem Call.apply_cases {c c' : Contents} {call : Call} (h : call.apply c = some c') :
    (∃ e, EntryChange c.proxies e call.proxyName ∧ c' = { c with proxies := e }) ∨
    (∃ e, EntryChange c.visitors e call.visitorName ∧ c' = { c with visitors := e }) := by
  cases call with
  | addProxy proxy =>
    obtain ⟨e, he, rfl⟩ := Option.map_eq_some_iff.mp h
    exact Or.inl ⟨e, .set he, rfl⟩
  | updateProxy proxy =>
    obtain ⟨e, he, rfl⟩ := Option.map_eq_some_iff.mp h
    exact Or.inl ⟨e, .set he, rfl⟩
  | removeProxy name =>
    obtain ⟨e, he, rfl⟩ := Option.map_eq_some_iff.mp h
    exact Or.inl ⟨e, .remove he, rfl⟩
  | addVisitor visitor =>
    obtain ⟨e, he, rfl⟩ := Option.map_eq_some_iff.mp h
    exact Or.inr ⟨e, .set he, rfl⟩
  | updateVisitor visitor =>
    obtain ⟨e, he, rfl⟩ := Option.map_eq_some_iff.mp h
    exact Or.inr ⟨e, .set he, rfl⟩
  | removeVisitor name =>
    obtain ⟨e, he, rfl⟩ := Option.map_eq_some_iff.mp h
    exact Or.inr ⟨e, .remove he, rfl⟩

/-- Under the name, which is not empty, there is no entry afterwards or one of that name. -/
theorem EntryChange.eq_update {T : Type} [Configurer T] {entries e : String → Option T}
    {name : Option String} (h : EntryChange entries e name) :
    ∃ k x, name = some k ∧ k ≠ "" ∧ e = Function.update entries k x ∧
      ∀ cfg, x = some cfg → Configurer.name cfg = k := by
  cases h with
  | @set present cfg hset =>
    cases cfg with
    | none => cases hset
    | some cfg =>
      simp only [setEntry, Option.ite_none_right_eq_some, Option.some.injEq] at hset
      obtain ⟨⟨hname, -⟩, rfl⟩ := hset
      refine ⟨Configurer.name cfg, some cfg, rfl, hname, rfl, ?_⟩
      rintro _ ⟨⟩
      rfl
  | @remove k hremove =>
    simp only [removeEntry, Option.ite_none_right_eq_some, Option.some.injEq] at hremove
    obtain ⟨⟨hname, -⟩, rfl⟩ := hremove
    exact ⟨k, none, rfl, hname, rfl, by simp⟩

theorem EntryChange.other {T : Type} [Configurer T] {entries e : String → Option T}
    {name : Option String} (h : EntryChange entries e name) {n : String} (hn : name ≠ some n) :
    e n = entries n := by
  obtain ⟨k, x, rfl, -, rfl, -⟩ := h.eq_update
  exact Function.update_of_ne (fun he => hn (congrArg some he.symm)) _ _

/-- A call is about the entry it names. -/
theorem Call.apply_other {c c' : Contents} {call : Call} (h : call.apply c = some c') :
    (∀ n, call.proxyName ≠ some n → c'.proxies n = c.proxies n) ∧
    (∀ n, call.visitorName ≠ some n → c'.visitors n = c.visitors n) := by
  rcases Call.apply_cases h with ⟨e, he, rfl⟩ | ⟨e, he, rfl⟩
  · exact ⟨fun n hn => he.other hn, fun _ _ => rfl⟩
  · exact ⟨fun _ _ => rfl, fun n hn => he.other hn⟩

end Frame

section Calls

variable {codec : Codec Raw Text} {env : Env Text} {s : State Text} {c : Call}

theorem call_config (codec : Codec Raw Text) (env : Env Text) (s : State Text) (c : Call) :
    (call codec env s c).1.source.config = s.source.config := by
  obtain ⟨_, h, -⟩ := call_does codec env s c
  exact h.config

/-- A call that returns nil has made its change, in memory and in the file. -/
theorem call_nil (h : (call codec env s c).2 = none) :
    c.apply s.source.contents = some (call codec env s c).1.source.contents ∧
      ∃ text, (call codec env s c).1.file = some text ∧
        Serializes codec (call codec env s c).1.source.toBaseSource text := by
  obtain ⟨change, hout, hdoes⟩ := call_does codec env s c
  obtain ⟨f, rfl, hsource, hfile⟩ := hout.nil h
  refine ⟨?_, hfile⟩
  rw [hdoes, Option.map_some, hsource]

/-- A call that returns an error has changed nothing. -/
theorem call_error {err : String} (h : (call codec env s c).2 = some err) :
    (call codec env s c).1.source.contents = s.source.contents ∧
      (call codec env s c).1.file = s.file := by
  obtain ⟨_, hout, -⟩ := call_does codec env s c
  exact hout.error err h

theorem call_nil_iff (h : NoFailure codec env) :
    (call codec env s c).2 = none ↔ ∃ c', c.apply s.source.contents = some c' := by
  obtain ⟨change, hout, hdoes⟩ := call_does codec env s c
  constructor
  · intro hnil
    exact ⟨_, (call_nil hnil).1⟩
  · intro ⟨c', hc'⟩
    apply hout.succeeds h
    intro hnone
    rw [hdoes, hnone] at hc'
    cases hc'

/-- Memory and file stay together through every call. -/
theorem Synced.call (h : Synced codec s) (env : Env Text) (c : Call) :
    Synced codec (call codec env s c).1 := by
  cases hres : (Config.call codec env s c).2 with
  | none => exact Or.inl (call_nil hres).2
  | some err =>
    obtain ⟨hcontents, hfile⟩ := call_error hres
    rcases h with ⟨text, htext, hser⟩ | ⟨hnone, hempty⟩
    · exact Or.inl ⟨text, hfile.trans htext, hser.congr hcontents⟩
    · exact Or.inr ⟨hfile.trans hnone, hcontents.trans hempty⟩

end Calls

/-- A run of calls, each with its own order of the maps and its own failures. -/
def calls (codec : Codec Raw Text) (s : State Text) : List (Env Text × Call) → State Text
  | [] => s
  | (env, c) :: rest => calls codec (call codec env s c).1 rest

theorem Synced.calls {codec : Codec Raw Text} {s : State Text} (h : Synced codec s)
    (l : List (Env Text × Call)) : Synced codec (calls codec s l) := by
  induction l generalizing s with
  | nil => exact h
  | cons p l ih => exact ih (h.call p.1 p.2)

/-- After any calls with any failures, from a store whose file holds its maps, the next call
is all or nothing: with nil, exactly the named entry has changed and the file holds the new
maps; with an error, the maps and the file are as before. If nothing fails, it returns nil
wherever there is something to do. -/
theorem store_all_or_nothing (codec : Codec Raw Text) {s₀ : State Text} (h : Synced codec s₀)
    (before : List (Env Text × Call)) (env : Env Text) (c : Call) :
    let s := calls codec s₀ before
    let r := call codec env s c
    Synced codec s ∧ Synced codec r.1 ∧
    (r.2 = none → c.apply s.source.contents = some r.1.source.contents ∧
      ∃ text, r.1.file = some text ∧ Serializes codec r.1.source.toBaseSource text) ∧
    (∀ err, r.2 = some err → r.1.source.contents = s.source.contents ∧ r.1.file = s.file) ∧
    (∀ n, c.proxyName ≠ some n → r.1.source.contents.proxies n = s.source.contents.proxies n) ∧
    (∀ n, c.visitorName ≠ some n → r.1.source.contents.visitors n = s.source.contents.visitors n) ∧
    (NoFailure codec env → (r.2 = none ↔ ∃ c', c.apply s.source.contents = some c')) := by
  intro s r
  have hsynced : Synced codec s := h.calls before
  have hother : (∀ n, c.proxyName ≠ some n →
        r.1.source.contents.proxies n = s.source.contents.proxies n) ∧
      (∀ n, c.visitorName ≠ some n →
        r.1.source.contents.visitors n = s.source.contents.visitors n) := by
    cases hres : r.2 with
    | none => exact Call.apply_other (call_nil hres).1
    | some err =>
      have hsame := (call_error hres).1
      exact ⟨fun n _ => congrFun (congrArg Contents.proxies hsame) n,
        fun n _ => congrFun (congrArg Contents.visitors hsame) n⟩
  exact ⟨hsynced, hsynced.call env c, call_nil, fun err => call_error, hother.1, hother.2,
    call_nil_iff⟩

abbrev PlainText := List ProxyConfig × List VisitorConfig

/-- A codec that keeps the configurations as they are. -/
def plainCodec : Codec (ProxyConfig ⊕ VisitorConfig) PlainText where
  empty := ([], [])
  marshalIndent ps vs := .ok (ps, vs)
  unmarshal text := .ok (text.1.map .inl, text.2.map .inr)
  isJSONNull _ := false
  envelope
    | .inl p => .ok p.type
    | .inr v => .ok v.type
  unmarshalProxy _
    | .inl p => .ok p
    | .inr _ => .error "cannot unmarshal"
  unmarshalVisitor _
    | .inl _ => .error "cannot unmarshal"
    | .inr v => .ok v

/-- Nothing fails, and loops keep the order of the entries. -/
def quiet (Text : Type) : Env Text :=
  ⟨⟨fun l => ⟨l, .refl l⟩, fun l => ⟨l, .refl l⟩⟩, ⟨none, none, none, none, none, none, true⟩⟩

/-- An empty store without a file. -/
def fresh (path : String) (disk : Disk Text) : State Text :=
  ⟨{ newBaseSource with config := ⟨path⟩ }, disk⟩

theorem synced_fresh (codec : Codec Raw Text) (path : String) (disk : Disk Text)
    (h : disk path = none) : Synced codec (fresh path disk) := Or.inr ⟨h, rfl⟩

def webProxy (type : String) : ProxyConfig :=
  ⟨"web", type, none, [], false, false, [], "", 80, "", [], none⟩

/-- A removal whose rename fails leaves the proxy in the store. -/
theorem store_all_or_nothing_rename :
    let s := calls plainCodec (fresh "store" fun _ => none)
      [(quiet PlainText, .addProxy (some (webProxy "xtcp")))]
    let busy : Env PlainText :=
      ⟨(quiet PlainText).order, { (quiet PlainText).answers with rename := some "busy" }⟩
    let r := call plainCodec busy s (.removeProxy "web")
    r.2 = some "failed to persist: failed to rename temp file: busy" ∧
      r.1.source.contents = s.source.contents ∧
      r.1.source.contents.proxies "web" = some (webProxy "xtcp") := by
  intro s busy r
  obtain ⟨-, -, -, herror, -⟩ := store_all_or_nothing plainCodec
    (synced_fresh plainCodec "store" (fun _ => none) rfl)
    [(quiet PlainText, .addProxy (some (webProxy "xtcp")))] busy (.removeProxy "web")
  have hres : r.2 = some "failed to persist: failed to rename temp file: busy" := by decide +kernel
  have hsame := (herror _ hres).1
  refine ⟨hres, hsame, ?_⟩
  rw [hsame]
  decide +kernel

end FrpXtcp.Config
