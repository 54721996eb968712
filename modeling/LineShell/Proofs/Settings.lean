import LineShell.Configuration.Basic
/-!
# Settings

Which settings a document makes. `Configuration.Key` are the eight known keys, and `Key.Accepts`
says which items each may have. A document spoils the settings if some known key has an item that it
does not accept (`Configuration.Mistyped`); otherwise every setting is made by itself
(`Configuration.Fills`): by the document if it has the key, and by the default if it has not.

The headlines are `ofDocument?_eq_some_iff` and `ofDocument?_eq_none_iff`. Every document is of one
of the two kinds, whatever else it holds (`exists_fills_iff`).
-/

namespace LineShell.Configuration

open Toml

variable {base c : Configuration} {d : Document} {item : Item}

/-! ### Items of a type -/

/-- The item is a text. -/
def IsText (item : Item) (t : Text) : Prop := item = .value (.string t)

/-- The item is the text of a fixed prompt. -/
def IsPrompt (item : Item) (prompt : Option Text) : Prop := ∃ t, IsText item t ∧ prompt = some t

/-- The item is a path, written as a text. -/
def IsPath (item : Item) (path : Bytes) : Prop := ∃ t, IsText item t ∧ path = t.bytes

/-- The item is a number that is not negative. -/
def IsCount (item : Item) (n : Nat) : Prop := item = .value (.integer n)

/-- The item is a truth value. -/
def IsFlag (item : Item) (b : Bool) : Prop := item = .value (.boolean b)

/-- The item is an array of texts and of nothing else. -/
def IsTexts (item : Item) (ts : List Text) : Prop :=
  ∃ items, item = .value (.array items) ∧ items.map Prod.snd = ts.map Value.string

theorem text?_eq_some_iff {t : Text} : text? item = some t ↔ IsText item t := by
  unfold text? IsText
  split
  · simp
  · rename_i hnot
    exact iff_of_false (fun h => nomatch h) (hnot t)

theorem prompt?_eq_some_iff {prompt : Option Text} :
    (text? item).map some = some prompt ↔ IsPrompt item prompt := by
  rw [Option.map_eq_some_iff]
  exact exists_congr fun t => and_congr text?_eq_some_iff eq_comm

theorem path?_eq_some_iff {path : Bytes} : path? item = some path ↔ IsPath item path := by
  unfold path?
  rw [Option.map_eq_some_iff]
  exact exists_congr fun t => and_congr text?_eq_some_iff eq_comm

theorem count?_eq_some_iff {n : Nat} : count? item = some n ↔ IsCount item n := by
  unfold count? IsCount
  split
  · simp only [Option.some.injEq, Toml.Item.value.injEq, Toml.Value.integer.injEq,
      Int.ofNat_eq_natCast, Int.natCast_inj]
  · rename_i hnot
    exact iff_of_false (fun h => nomatch h) (hnot n)

theorem flag?_eq_some_iff {b : Bool} : flag? item = some b ↔ IsFlag item b := by
  unfold flag? IsFlag
  split
  · simp
  · rename_i hnot
    exact iff_of_false (fun h => nomatch h) (hnot b)

theorem itemText?_eq_some_iff {v : Value} {t : Text} : itemText? v = some t ↔ v = .string t := by
  unfold itemText?
  split
  · simp
  · rename_i hnot
    exact iff_of_false (fun h => nomatch h) (hnot t)

theorem mapM_itemText? (items : List (Span × Value)) (ts : List Text) :
    items.mapM (fun item => itemText? item.2) = some ts ↔
      items.map Prod.snd = ts.map Value.string := by
  induction items generalizing ts with
  | nil => cases ts <;> simp
  | cons item items ih =>
    rw [List.mapM_cons, List.map_cons]
    simp only [Option.bind_eq_bind, Option.bind_eq_some_iff, itemText?_eq_some_iff, ih,
      Option.pure_def, Option.some.injEq]
    constructor
    · rintro ⟨t, hitem, ts, hitems, rfl⟩
      rw [hitem, hitems, List.map_cons]
    · intro h
      obtain ⟨t, ts, rfl, hitem, hitems⟩ := List.map_eq_cons_iff.1 h.symm
      exact ⟨t, hitem.symm, ts, hitems.symm, rfl⟩

theorem texts?_eq_some_iff {ts : List Text} : texts? item = some ts ↔ IsTexts item ts := by
  unfold texts? IsTexts
  split
  · simp [mapM_itemText?]
  · rename_i hnot
    exact iff_of_false (fun h => nomatch h) fun ⟨items, hitem, _⟩ => hnot items hitem

/-! ### Keys -/

/-- The known keys. -/
inductive Key where
  | prompt
  | maxArgs
  | historyFile
  | historySize
  | logLevel
  | logFile
  | greeting
  | startup
  deriving DecidableEq, Repr

namespace Key

/-- How a key is written. -/
def name : Key → String
  | prompt => "prompt"
  | maxArgs => "max_args"
  | historyFile => "history_file"
  | historySize => "history_size"
  | logLevel => "log_level"
  | logFile => "log_file"
  | greeting => "greeting"
  | startup => "startup"

/-- The items that a key may have. -/
def Accepts : Key → Item → Prop
  | prompt, item => ∃ p, IsPrompt item p
  | maxArgs, item | historySize, item => ∃ n, IsCount item n
  | historyFile, item | logFile, item => ∃ path, IsPath item path
  | logLevel, item => ∃ t, IsText item t
  | greeting, item => ∃ b, IsFlag item b
  | startup, item => ∃ ts, IsTexts item ts

/-- The item that a document has for a key. -/
def item? (key : Key) (d : Document) : Option Item := d.get? key.name.toList

end Key

/-! ### Settings one by one -/

section

variable {α : Type} {read : Item → Option α} {Has : Item → α → Prop}

/-- A setting by itself: what the item of the key says if there is one, and the default if not. -/
def Setting (d : Document) (key : Key) (Has : Item → α → Prop) (default value : α) : Prop :=
  (key.item? d = none ∧ value = default) ∨ ∃ item, key.item? d = some item ∧ Has item value

theorem setting?_eq_some_iff (key : Key)
    (hread : ∀ {item : Item} {a : α}, read item = some a ↔ Has item a) {default value : α} :
    setting? read default d key.name = some value ↔ Setting d key Has default value := by
  unfold setting? Setting Key.item?
  cases d.get? key.name.toList with
  | none => simp [eq_comm]
  | some item => simp [hread]

/-- A key with an item that is accepted, or with none, makes a setting. -/
theorem exists_setting (key : Key) (default : α)
    (h : ∀ item, key.item? d = some item → ∃ a, Has item a) :
    ∃ value, Setting d key Has default value := by
  cases hitem : key.item? d with
  | none => exact ⟨default, .inl ⟨hitem, rfl⟩⟩
  | some item =>
    obtain ⟨a, ha⟩ := h item hitem
    exact ⟨a, .inr ⟨item, hitem, ha⟩⟩

end

/-! ### Documents -/

/-- **Every setting is made by itself.** -/
structure Fills (base : Configuration) (d : Document) (c : Configuration) : Prop where
  prompt : Setting d .prompt IsPrompt base.prompt c.prompt
  maxArgs : Setting d .maxArgs IsCount base.maxArgs c.maxArgs
  historyFile : Setting d .historyFile IsPath base.historyFile c.historyFile
  historySize : Setting d .historySize IsCount base.historySize c.historySize
  logLevel : Setting d .logLevel IsText base.logLevel c.logLevel
  logFile : Setting d .logFile IsPath base.logFile c.logFile
  greeting : Setting d .greeting IsFlag base.greeting c.greeting
  startup : Setting d .startup IsTexts base.startup c.startup

/-- Some known key has an item that it does not accept. -/
def Mistyped (d : Document) : Prop :=
  ∃ key : Key, ∃ item, key.item? d = some item ∧ ¬key.Accepts item

/-- **A document that is read fills the settings**, whatever else it holds. -/
theorem ofDocument?_eq_some_iff : ofDocument? base d = some c ↔ Fills base d c := by
  unfold ofDocument?
  simp only [Option.bind_eq_bind, Option.bind_eq_some_iff, Option.some.injEq]
  constructor
  · rintro ⟨prompt, hprompt, maxArgs, hmaxArgs, historyFile, hhistoryFile, historySize,
      hhistorySize, logLevel, hlogLevel, logFile, hlogFile, greeting, hgreeting, startup, hstartup,
      rfl⟩
    -- Each field is a setting by itself, and the document is read field by field.
    exact
      { prompt := (setting?_eq_some_iff .prompt prompt?_eq_some_iff).1 hprompt
        maxArgs := (setting?_eq_some_iff .maxArgs count?_eq_some_iff).1 hmaxArgs
        historyFile := (setting?_eq_some_iff .historyFile path?_eq_some_iff).1 hhistoryFile
        historySize := (setting?_eq_some_iff .historySize count?_eq_some_iff).1 hhistorySize
        logLevel := (setting?_eq_some_iff .logLevel text?_eq_some_iff).1 hlogLevel
        logFile := (setting?_eq_some_iff .logFile path?_eq_some_iff).1 hlogFile
        greeting := (setting?_eq_some_iff .greeting flag?_eq_some_iff).1 hgreeting
        startup := (setting?_eq_some_iff .startup texts?_eq_some_iff).1 hstartup }
  · intro h
    exact ⟨_, (setting?_eq_some_iff .prompt prompt?_eq_some_iff).2 h.prompt,
      _, (setting?_eq_some_iff .maxArgs count?_eq_some_iff).2 h.maxArgs,
      _, (setting?_eq_some_iff .historyFile path?_eq_some_iff).2 h.historyFile,
      _, (setting?_eq_some_iff .historySize count?_eq_some_iff).2 h.historySize,
      _, (setting?_eq_some_iff .logLevel text?_eq_some_iff).2 h.logLevel,
      _, (setting?_eq_some_iff .logFile path?_eq_some_iff).2 h.logFile,
      _, (setting?_eq_some_iff .greeting flag?_eq_some_iff).2 h.greeting,
      _, (setting?_eq_some_iff .startup texts?_eq_some_iff).2 h.startup, rfl⟩

/-- **A document fills the settings unless it is mistyped.** -/
theorem exists_fills_iff : (∃ c, Fills base d c) ↔ ¬Mistyped d := by
  constructor
  · rintro ⟨c, h⟩ ⟨key, item, hitem, hnot⟩
    -- A key that is there with a value of another kind cannot be filled.
    have haccepts : ∀ {α : Type} {Has : Item → α → Prop} {default value : α},
        Setting d key Has default value → ∃ a, Has item a := by
      rintro α Has default value (⟨hnone, -⟩ | ⟨item', hitem', hhas⟩)
      · rw [hitem] at hnone
        cases hnone
      · obtain rfl := Option.some.inj (hitem.symm.trans hitem')
        exact ⟨value, hhas⟩
    refine hnot ?_
    cases key with
    | prompt => exact haccepts h.prompt
    | maxArgs => exact haccepts h.maxArgs
    | historyFile => exact haccepts h.historyFile
    | historySize => exact haccepts h.historySize
    | logLevel => exact haccepts h.logLevel
    | logFile => exact haccepts h.logFile
    | greeting => exact haccepts h.greeting
    | startup => exact haccepts h.startup
  · intro hnot
    -- Conversely every key that is there holds a value of its kind, and the others default.
    have haccepts : ∀ (key : Key) item, key.item? d = some item → key.Accepts item :=
      fun key item hitem => Classical.byContradiction fun h => hnot ⟨key, item, hitem, h⟩
    obtain ⟨prompt, hprompt⟩ := exists_setting .prompt base.prompt (haccepts .prompt)
    obtain ⟨maxArgs, hmaxArgs⟩ := exists_setting .maxArgs base.maxArgs (haccepts .maxArgs)
    obtain ⟨historyFile, hhistoryFile⟩ :=
      exists_setting .historyFile base.historyFile (haccepts .historyFile)
    obtain ⟨historySize, hhistorySize⟩ :=
      exists_setting .historySize base.historySize (haccepts .historySize)
    obtain ⟨logLevel, hlogLevel⟩ := exists_setting .logLevel base.logLevel (haccepts .logLevel)
    obtain ⟨logFile, hlogFile⟩ := exists_setting .logFile base.logFile (haccepts .logFile)
    obtain ⟨greeting, hgreeting⟩ := exists_setting .greeting base.greeting (haccepts .greeting)
    obtain ⟨startup, hstartup⟩ := exists_setting .startup base.startup (haccepts .startup)
    exact ⟨⟨prompt, maxArgs, historyFile, historySize, logLevel, logFile, greeting, startup⟩,
      ⟨hprompt, hmaxArgs, hhistoryFile, hhistorySize, hlogLevel, hlogFile, hgreeting, hstartup⟩⟩

/-- **A mistyped document makes no settings at all.** -/
theorem ofDocument?_eq_none_iff : ofDocument? base d = none ↔ Mistyped d := by
  constructor
  · intro hnone
    refine Classical.byContradiction fun hnot => ?_
    obtain ⟨c, hc⟩ : ∃ c, Fills base d c := exists_fills_iff.2 hnot
    rw [ofDocument?_eq_some_iff.2 hc] at hnone
    cases hnone
  · intro h
    cases hread : ofDocument? base d with
    | none => rfl
    | some c => exact absurd h (exists_fills_iff.1 ⟨c, ofDocument?_eq_some_iff.1 hread⟩)

end LineShell.Configuration
