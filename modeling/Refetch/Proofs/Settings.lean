import Refetch.Proofs.OnePass

/-!
# Settings

An adapter has three settings: the rule, the root field and the prefix. Each may be given a value
any number of times, in any order. The prefix is kept twice, as it was given and as its marker; no
change leaves the marker of an earlier prefix behind. So an adapter is no more than its three
settings, and each of these is what was given last.

* `Adapter.current_changed` — the marker is that of the prefix
* `Adapter.Current.eq_iff` — then adapters are the same if their settings are
* `Adapter.Setting.get_changed` — a setting is what was given last
* `Adapter.changed_by_last` — what adapters are after any changes, and what they do
-/

namespace Refetch

/-- What a rule, a root field and a prefix make of a document. -/
def Document.adapted (rule : DerivedRule) (root prefixName : String) (d : Document) : Outcome :=
  match d.isolate root with
  | .error reason => .skipped reason
  | .ok narrowed => .adapted (narrowed.tidy rule (.ofName prefixName))

namespace Adapter

/-- A value given to one of the settings. -/
inductive Change where
  /-- which fields are derived -/
  | rule (rule : DerivedRule)
  /-- the root field -/
  | rootField (name : String)
  /-- the prefix -/
  | prefixName (name : String)
  deriving DecidableEq, Repr

/-- The changes that give each setting its default value. -/
def Change.defaults : List Change := [.rule .default, .rootField "", .prefixName ""]

/-- The adapter with a value given to one of its settings. -/
def change (a : Adapter) : Change → Adapter
  | .rule rule => a.setRule rule
  | .rootField name => a.setRootField name
  | .prefixName name => a.setTypePrefix name

/-- The default adapter after changes, made one after the other. -/
def changed (changes : List Change) : Adapter := changes.foldl change .default

/-! ## The marker -/

/-- The marker is that of the prefix. -/
def Current (a : Adapter) : Prop := a.typePrefix = .ofName a.prefixName

variable {a b : Adapter}

/-- The default has no prefix, and the marker of none. -/
theorem current_default : Adapter.default.Current := TypePrefix.ofName_empty.symm

/-- Every change sets the marker with the prefix or leaves both. -/
theorem Current.change (h : a.Current) (c : Change) : (a.change c).Current := by
  cases c with
  | rule rule => exact h
  | rootField name => exact h
  -- whatever the marker was before, it is made anew
  | prefixName name => rfl

/-- After any changes the marker is still that of the prefix. -/
theorem Current.foldl_change (h : a.Current) (changes : List Change) :
    (changes.foldl Adapter.change a).Current := by
  induction changes generalizing a with
  | nil => exact h
  | cons c rest ih => exact ih (h.change c)

theorem current_changed (changes : List Change) : (changed changes).Current :=
  current_default.foldl_change changes

/-- Nothing but the settings tells adapters apart. -/
theorem Current.eq_iff (ha : a.Current) (hb : b.Current) :
    a = b ↔ a.rule = b.rule ∧ a.rootField = b.rootField ∧ a.prefixName = b.prefixName := by
  constructor
  · rintro rfl
    exact ⟨rfl, rfl, rfl⟩
  · rintro ⟨hrule, hroot, hprefix⟩
    have hmarker : a.typePrefix = b.typePrefix := by rw [ha, hb, hprefix]
    cases a
    cases b
    rw [mk.injEq]
    exact ⟨hrule, hroot, hprefix, hmarker⟩

/-- What an adapter does is determined by its three settings if its marker is that of its prefix. -/
theorem Current.adaptDocument_eq (h : a.Current) (d : Document) :
    a.adaptDocument d = d.adapted a.rule a.rootField a.prefixName := by
  rw [Adapter.adaptDocument_eq, h]
  rfl

/-! ## What is given last -/

/-- One of the settings. -/
structure Setting (α : Type) where
  /-- its value in an adapter -/
  get : Adapter → α
  /-- the value that a change gives to it -/
  given? : Change → Option α
  /-- other changes leave it as it is -/
  get_change : ∀ a c, get (a.change c) = (given? c).getD (get a)

namespace Setting

/-- The rule. -/
def rule : Setting DerivedRule where
  get := Adapter.rule
  given?
    | .rule rule => some rule
    | _ => none
  get_change a c := by cases c <;> rfl

/-- The root field. -/
def rootField : Setting String where
  get := Adapter.rootField
  given?
    | .rootField name => some name
    | _ => none
  get_change a c := by cases c <;> rfl

/-- The prefix. -/
def prefixName : Setting String where
  get := Adapter.prefixName
  given?
    | .prefixName name => some name
    | _ => none
  get_change a c := by cases c <;> rfl

variable {α : Type}

/-- The last of the values given to the setting; its default value if none was. -/
def last (setting : Setting α) (changes : List Change) : α :=
  (changes.filterMap setting.given?).getLastD (setting.get .default)

/-- A setting is the last value given to it, or what it was. -/
theorem get_foldl_change (setting : Setting α) (changes : List Change) :
    setting.get (changes.foldl change a) =
      (changes.filterMap setting.given?).getLastD (setting.get a) := by
  induction changes generalizing a with
  | nil => rfl
  | cons c rest ih =>
    -- a value given first is what is left if none of the rest gives another
    rw [List.foldl_cons, ih, setting.get_change]
    cases hgiven : setting.given? c with
    | none => rw [List.filterMap_cons_none hgiven, Option.getD_none]
    | some value => rw [List.filterMap_cons_some hgiven, Option.getD_some, List.getLastD_cons]

theorem get_changed (setting : Setting α) (changes : List Change) :
    setting.get (changed changes) = setting.last changes := setting.get_foldl_change changes

/-- Where each setting gets its default value back, what it was given before does not count. -/
theorem get_changed_append_resets (setting : Setting α) (changes : List Change)
    {resets : List Change} {value : α} (hresets : ∀ c, c ∈ resets ↔ c ∈ Change.defaults)
    (hvalue : Change.defaults.filterMap setting.given? = [value]) :
    setting.get (changed (changes ++ resets)) = value := by
  have hmem : ∀ other, other ∈ resets.filterMap setting.given? ↔ other = value := by
    intro other
    rw [← List.mem_singleton, ← hvalue]
    simp only [List.mem_filterMap, hresets]
  have hne : resets.filterMap setting.given? ≠ [] := List.ne_nil_of_mem ((hmem value).mpr rfl)
  rw [get_changed, last, List.filterMap_append, List.getLastD_eq_getLast?, List.getLast?_append,
    List.getLast?_eq_some_getLast hne, Option.some_or, Option.getD_some]
  exact (hmem _).mp (List.getLast_mem hne)

end Setting

/-! ## Adapters after changes -/

/-- Adapters are equal after changes that give the three settings the same last values. -/
theorem changed_eq_iff (changes others : List Change) :
    changed others = changed changes ↔
      Setting.rule.last others = Setting.rule.last changes ∧
        Setting.rootField.last others = Setting.rootField.last changes ∧
          Setting.prefixName.last others = Setting.prefixName.last changes := by
  rw [(current_changed others).eq_iff (current_changed changes)]
  simp only [← Setting.get_changed]
  rfl

/-- Each setting set back, in any order and however often, leaves the default. -/
theorem changed_append_resets (changes : List Change) {resets : List Change}
    (hresets : ∀ c, c ∈ resets ↔ c ∈ Change.defaults) :
    changed (changes ++ resets) = .default := by
  rw [(current_changed _).eq_iff current_default]
  exact ⟨Setting.rule.get_changed_append_resets changes hresets rfl,
    Setting.rootField.get_changed_append_resets changes hresets rfl,
    Setting.prefixName.get_changed_append_resets changes hresets rfl⟩

/-- After any changes the marker is that of the prefix, and each setting is what was given last. So
other changes make the same adapter if and only if they give the same last, and documents and
requests are adapted by what was given last. It is the default adapter if and only if its settings
are the default ones, and it is that again after any changes once each setting has got its default
value back. -/
theorem changed_by_last (changes : List Change) :
    let a := changed changes
    let rule := Setting.rule.last changes
    let root := Setting.rootField.last changes
    let prefixName := Setting.prefixName.last changes
    a.typePrefix = .ofName a.prefixName ∧
      (a.rule = rule ∧ a.rootField = root ∧ a.prefixName = prefixName) ∧
      (∀ others, changed others = a ↔ Setting.rule.last others = rule ∧
        Setting.rootField.last others = root ∧ Setting.prefixName.last others = prefixName) ∧
      (∀ d, a.adaptDocument d = d.adapted rule root prefixName) ∧
      (∀ request, a.adapt request = (request.query.loadWith request.fragments).map
        fun d => d.adapted rule root prefixName) ∧
      (a = .default ↔ a.rootField = "" ∧ a.prefixName = "" ∧ a.rule = .default) ∧
      ∀ resets, (∀ c, c ∈ resets ↔ c ∈ Change.defaults) →
        changed (changes ++ resets) = .default := by
  intro a rule root prefixName
  have hcurrent : a.Current := current_changed changes
  have hrule : a.rule = rule := Setting.rule.get_changed changes
  have hroot : a.rootField = root := Setting.rootField.get_changed changes
  have hprefix : a.prefixName = prefixName := Setting.prefixName.get_changed changes
  have hadapted : ∀ d, a.adaptDocument d = d.adapted rule root prefixName := by
    intro d
    rw [hcurrent.adaptDocument_eq, hrule, hroot, hprefix]
  refine ⟨hcurrent, ⟨hrule, hroot, hprefix⟩, fun others => changed_eq_iff changes others,
    hadapted, fun request => ?_, ?_, fun resets => changed_append_resets changes⟩
  · rw [adapt, funext hadapted]
  · rw [hcurrent.eq_iff current_default]
    constructor
    · rintro ⟨hrule, hroot, hprefix⟩
      exact ⟨hroot, hprefix, hrule⟩
    · rintro ⟨hroot, hprefix, hrule⟩
      exact ⟨hrule, hroot, hprefix⟩

/-- Each setting is given a value, and the prefix another one after that. -/
def twoPrefixes : List Change :=
  [.prefixName "NS", .rootField "page", .rule ⟨"Thumb", "nestedThumb"⟩, .prefixName "A_A"]

/-- Each setting gets its default value back, and the prefix does so twice. -/
def takenBack : List Change := [.prefixName "", .rule .default, .prefixName "", .rootField ""]

/-- Of two prefixes the later one counts, and neither does when all is taken back. -/
theorem changed_by_last_of_two_prefixes :
    (∀ c, c ∈ takenBack ↔ c ∈ Change.defaults) ∧
      (changed twoPrefixes).typePrefix = .ofName "A_A" ∧ changed twoPrefixes ≠ .default ∧
        changed (twoPrefixes ++ takenBack) = .default := by
  have hback : ∀ c ∈ takenBack, c ∈ Change.defaults := by decide
  have hall : ∀ c ∈ Change.defaults, c ∈ takenBack := by decide
  obtain ⟨hmarker, -, -, -, -, hdefault, hresets⟩ := changed_by_last twoPrefixes
  refine ⟨fun c => ⟨hback c, hall c⟩, hmarker, fun heq => ?_,
    hresets takenBack fun c => ⟨hback c, hall c⟩⟩
  obtain ⟨hroot, -, -⟩ := hdefault.mp heq
  exact absurd hroot (by decide)

end Adapter

end Refetch
