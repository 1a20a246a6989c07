import FlowConsole.Proofs.Command.Arguments
import FlowConsole.Proofs.Command.Presentation
/-!
Two command lines read side by side.

Where two states of reading differ in flags that say how results are shown, and in nothing else, the
same words take them to such states again. One of them may have flags that the other lacks; it can
then fail where the other does not, but what it accepts the other accepts too.
-/
namespace FlowConsole.Command

/-- Whether a flag can be left out without a change to anything but what is printed. -/
def Flag.isStyle (f : Flag) : Bool := f == .quiet || f == .color

def FlagValue.blank : FlagValue → FlagValue
  | .format _ => .format .table
  | value => value

namespace Given

/-! ## What is left of flags -/

/-- Flags without what they say about showing results. -/
def work (g : Given) : Given :=
  (g.filter fun e => !e.1.isStyle).map fun e => (e.1, e.2.1, e.2.2.blank)

theorem work_cons (e : Flag × Source × FlagValue) (g : Given) :
    work (e :: g) = if e.1.isStyle then work g else (e.1, e.2.1, e.2.2.blank) :: work g := by
  unfold work
  cases h : e.1.isStyle <;> simp [h]

theorem lookup_work (g : Given) (f : Flag) :
    g.work.lookup f = if f.isStyle then none
      else (g.lookup f).map fun v => (v.1, v.2.blank) := by
  induction g with
  | nil => simp [work]
  | cons e g ih =>
      obtain ⟨f', source, value⟩ := e
      rw [work_cons]
      by_cases hf : f = f'
      · subst hf
        cases h : f.isStyle <;> simp [h, ih]
      · have hne : (f == f') = false := by simpa using hf
        cases h : f'.isStyle <;> simp [ih, List.lookup_cons, hne]

section

variable {f : Flag} (hf : f.isStyle = false)
include hf

theorem has_work (g : Given) : g.work.has f = g.has f := by
  simp [has, lookup_work, hf]

theorem isWeak_work (g : Given) : g.work.isWeak f = g.isWeak f := by
  simp [isWeak, lookup_work, hf, Option.map_map, Function.comp_def]

theorem value?_work (g : Given) : g.work.value? f = (g.value? f).map FlagValue.blank := by
  simp [value?, lookup_work, hf, Option.map_map, Function.comp_def]

theorem text?_work (g : Given) : g.work.text? f = g.text? f := by
  unfold text?
  rw [value?_work hf]
  cases g.value? f with
  | none => rfl
  | some v => cases v <;> rfl

theorem number?_work (g : Given) : g.work.number? f = g.number? f := by
  unfold number?
  rw [value?_work hf]
  cases g.value? f with
  | none => rfl
  | some v => cases v <;> rfl

theorem count_work (g : Given) : g.work.count f = g.count f := by
  unfold count
  rw [value?_work hf]
  cases g.value? f with
  | none => rfl
  | some v => cases v <;> rfl

end

theorem options_work (g : Given) : g.work.options = g.options.work := by
  have hcolor : g.work.value? .color = none := by
    simp [value?, lookup_work, Flag.isStyle]
  have hquiet : g.work.has .quiet = false := by
    simp [has, lookup_work, Flag.isStyle]
  unfold options Options.work
  simp (disch := decide) only [text?_work, number?_work, count_work, has_work, value?_work, hcolor,
    hquiet]
  congr 1
  cases g.value? .output with
  | none => rfl
  | some v => cases v <;> rfl

/-! ## Setting and merging -/

theorem has_set_iff (g : Given) (f f' : Flag) (source : Source) (value : FlagValue) :
    (g.set f source value).has f' = true ↔ f' = f ∨ g.has f' = true := by
  constructor
  · intro h
    obtain ⟨e, he, rfl⟩ := (has_iff _ f').mp h
    rcases List.mem_append.mp he with he | he
    · exact .inr ((has_iff g _).mpr ⟨e, (List.mem_filter.mp he).1, rfl⟩)
    · rw [List.mem_singleton.mp he]
      exact .inl rfl
  · rintro (rfl | h)
    · exact has_set_self g f' source value
    · exact has_set h f source value

theorem has_merge_iff (outer inner : Given) (f : Flag) :
    (outer.merge inner).has f = true ↔ outer.has f = true ∨ inner.has f = true := by
  constructor
  · intro h
    obtain ⟨e, he, rfl⟩ := (has_iff _ f).mp h
    rcases List.mem_append.mp he with he | he
    · exact .inl ((has_iff outer _).mpr ⟨e, (List.mem_filter.mp he).1, rfl⟩)
    · exact .inr ((has_iff inner _).mpr ⟨e, (List.mem_filter.mp he).1, rfl⟩)
  · exact has_merge

theorem work_append (g g' : Given) : work (g ++ g') = g.work ++ g'.work := by
  simp [work]

theorem work_filter (g : Given) {p q : Flag × Source × FlagValue → Bool}
    (hpq : ∀ e, e.1.isStyle = false → p e = q (e.1, e.2.1, e.2.2.blank)) :
    work (g.filter p) = g.work.filter q := by
  unfold work
  rw [List.filter_map, List.filter_filter, List.filter_filter]
  refine congrArg _ (List.filter_congr fun e _ => ?_)
  cases he : e.1.isStyle with
  | true => simp
  | false => simp [hpq e he]

theorem isStyle_of_mem_work {g : Given} {e : Flag × Source × FlagValue} (he : e ∈ g.work) :
    e.1.isStyle = false := by
  obtain ⟨e, hmem, rfl⟩ := List.mem_map.mp he
  simpa using (List.mem_filter.mp hmem).2

theorem work_singleton (f : Flag) (source : Source) (value : FlagValue) :
    work [(f, source, value)] = if f.isStyle then [] else [(f, source, value.blank)] :=
  work_cons (f, source, value) []

theorem work_set (g : Given) (f : Flag) (source : Source) (value : FlagValue) :
    (g.set f source value).work =
      if f.isStyle then g.work else g.work.set f source value.blank := by
  have hothers : work (g.filter fun e => e.1 ≠ f) = g.work.filter fun e => e.1 ≠ f :=
    work_filter g fun _ _ => rfl
  unfold set
  rw [work_append, hothers, work_singleton]
  cases hf : f.isStyle with
  | true =>
      rw [if_pos rfl, if_pos rfl, List.append_nil]
      refine List.filter_eq_self.mpr fun e he => ?_
      have hne : e.1 ≠ f := fun heq => by simp [← heq, isStyle_of_mem_work he] at hf
      simpa using hne
  | false => rfl

theorem work_merge (outer inner : Given) :
    (outer.merge inner).work = outer.work.merge inner.work := by
  unfold merge
  rw [work_append]
  refine congrArg₂ _ (work_filter outer fun e he => ?_) (work_filter inner fun e he => ?_)
  · simp only [has_work he, isWeak_work he]
  · simp only [has_work he, isWeak_work he]

/-- Whether flags differ in nothing but how results are shown. Those on the left have what those on
the right have, and nothing else where it is strict. -/
structure Alike (strict : Prop) (g g' : Given) : Prop where
  work : g.work = g'.work
  has : ∀ f, g'.has f = true → g.has f = true
  strict : strict → ∀ f, g.has f = true → g'.has f = true

variable {strict : Prop}

theorem Alike.refl (g : Given) : g.Alike strict g := ⟨rfl, fun _ h => h, fun _ _ h => h⟩

namespace Alike

variable {g g' : Given} (h : g.Alike strict g')
include h

theorem has_eq {f : Flag} (hf : f.isStyle = false) : g.has f = g'.has f := by
  rw [← has_work hf, h.work, has_work hf]

theorem count_eq {f : Flag} (hf : f.isStyle = false) : g.count f = g'.count f := by
  rw [← count_work hf, h.work, count_work hf]

theorem options : g.options.work = g'.options.work := by
  rw [← options_work, h.work, options_work]

theorem set (f : Flag) (source : Source) (value : FlagValue) :
    (g.set f source value).Alike strict (g'.set f source value) where
  work := by rw [work_set, work_set, h.work]
  has f' := by
    rw [has_set_iff, has_set_iff]
    exact Or.imp_right (h.has f')
  strict hstrict f' := by
    rw [has_set_iff, has_set_iff]
    exact Or.imp_right (h.strict hstrict f')

theorem merge {inner inner' : Given} (hinner : inner.Alike strict inner') :
    (g.merge inner).Alike strict (g'.merge inner') where
  work := by rw [work_merge, work_merge, h.work, hinner.work]
  has f := by
    rw [has_merge_iff, has_merge_iff]
    exact Or.imp (h.has f) (hinner.has f)
  strict hstrict f := by
    rw [has_merge_iff, has_merge_iff]
    exact Or.imp (h.strict hstrict f) (hinner.strict hstrict f)

/-- No flag on the left means no flag on the right, but not the other way round. -/
theorem isEmpty_eq (hstrict : strict) : g.isEmpty = g'.isEmpty := by
  have hnone : ∀ g : Given, g.isEmpty = true ↔ ∀ f, ¬ g.has f = true := by
    intro g
    cases g with
    | nil => simp [Given.has]
    | cons e rest => simpa using ⟨e.1, (has_iff _ _).mpr ⟨e, by simp, rfl⟩⟩
  rw [Bool.eq_iff_iff, hnone, hnone]
  exact ⟨fun hg f hf => hg f (h.has f hf), fun hg f hf => hg f (h.strict hstrict f hf)⟩

end Alike

theorem alike_set (g : Given) {f : Flag} {value value' : FlagValue}
    (hf : f.isStyle = true ∨ value.blank = value'.blank) (source : Source) :
    (g.set f source value).Alike strict (g.set f source value') where
  work := by
    rw [work_set, work_set]
    rcases hf with hf | hvalue
    · rw [hf]
      rfl
    · rw [hvalue]
  has f' := by rw [has_set_iff, has_set_iff]; exact id
  strict _ f' := by rw [has_set_iff, has_set_iff]; exact id

theorem alike_set_self (g : Given) {f : Flag} (hf : f.isStyle = true) (source : Source)
    (value : FlagValue) : (g.set f source value).Alike False g where
  work := by rw [work_set, hf, if_pos rfl]
  has _ h := has_set h f source value
  strict hstrict := hstrict.elim

end Given

/-! ## States of reading -/

/-- Whether states of reading differ in nothing but flags for showing results. -/
structure Progress.Level (strict : Prop) (p p' : Progress) : Prop where
  given : p.given.Alike strict p'.given
  pending : p.pending = p'.pending
  operand : p.operand = p'.operand
  operandsOnly : p.operandsOnly = p'.operandsOnly

/-- What has been read of a command: whether it is the same command, with flags that differ in
nothing but how results are shown. -/
structure Arguments.Reading.Alike (strict : Prop) (r r' : Arguments.Reading) : Prop where
  given : r.given.Alike strict r'.given
  command : r.command = r'.command

theorem Arguments.Reading.Alike.refl (strict : Prop) (r : Arguments.Reading) : r.Alike strict r :=
  ⟨.refl r.given, rfl⟩

namespace Arguments

open Progress

variable {strict : Prop}

theorem once_tracks (f : Flag) {g g' : Given} (h : g.Alike strict g')
    {x x' : Except UsageError Given} (hx : Tracks strict (Given.Alike strict) x x') :
    Tracks strict (Given.Alike strict) (if g.has f then .error .repeatedFlag else x)
      (if g'.has f then .error .repeatedFlag else x') := by
  cases hleft : g.has f with
  | true =>
      rw [if_pos rfl]
      refine .error _ fun hstrict => ?_
      rw [if_pos (h.strict hstrict f hleft)]
  | false =>
      have hright : ¬ g'.has f = true := fun hright => by simp [h.has f hright] at hleft
      rw [if_neg (by simp), if_neg hright]
      exact hx

theorem takeSwitch_tracks (f : Flag) {g g' : Given} (h : g.Alike strict g') :
    Tracks strict (Given.Alike strict) (takeSwitch f g) (takeSwitch f g') := by
  unfold takeSwitch
  split
  · exact tracks_error _
  · exact tracks_error _
  · rw [h.count_eq rfl]
    exact .ok (h.set _ _ _)
  · exact once_tracks _ h (.ok (h.set _ _ _))

theorem takeValue_tracks (f : Flag) (value : Option String) {g g' : Given}
    (h : g.Alike strict g') :
    Tracks strict (Given.Alike strict) (takeValue f value g) (takeValue f value g') := by
  cases value with
  | none => exact tracks_error _
  | some text =>
      refine once_tracks f h ?_
      cases f.read text with
      | error e => exact tracks_error e
      | ok v => exact .ok (h.set _ _ _)

theorem resolve_tracks (s : Grammar) {p p' : Progress} (h : p.Level strict p') :
    Tracks strict (Level strict) (resolve s p) (resolve s p') := by
  unfold resolve
  rw [← h.pending]
  split
  · exact .ok h
  · exact (takeValue_tracks _ _ h.given).bind fun given given' hgiven =>
      .ok ⟨hgiven, rfl, h.operand, h.operandsOnly⟩
  · split
    · split
      · exact .ok ⟨h.given, rfl, rfl, h.operandsOnly⟩
      · exact tracks_error _
    · exact .ok ⟨h.given, rfl, rfl, h.operandsOnly⟩

end Arguments

open Arguments

/-- Whether states of reading are alike once what is pending has been looked at. What the next word
means is the same in both; a flag that waits for its value waits in both. -/
structure Progress.Alike (strict : Prop) (s : Grammar) (p p' : Progress) : Prop where
  operandsOnly : p.operandsOnly = p'.operandsOnly
  hasOperand : hasOperand p = hasOperand p'
  waits : waits p = waits p'
  waiting : Arguments.waits p = true → p.Level strict p'
  resolved : Tracks strict (Progress.Level strict) (resolve s p) (resolve s p')

namespace Progress

variable {strict : Prop}

theorem Level.refl (p : Progress) : p.Level strict p := ⟨.refl p.given, rfl, rfl, rfl⟩

theorem Level.alike (s : Grammar) {p p' : Progress} (h : p.Level strict p') :
    p.Alike strict s p' where
  operandsOnly := h.operandsOnly
  hasOperand := by unfold hasOperand; rw [h.pending, h.operand]
  waits := by unfold waits; rw [h.pending]
  waiting _ := h
  resolved := resolve_tracks s h

theorem Alike.refl (s : Grammar) (p : Progress) : p.Alike strict s p := (Level.refl p).alike s

end Progress

namespace Arguments

open Progress

/-! ## One argument -/

theorem resolve_operandsOnly (s : Grammar) (p : Progress) :
    resolve s { p with operandsOnly := true } =
      (resolve s p).map fun q => { q with operandsOnly := true } := by
  obtain ⟨given, pending, operand, operandsOnly⟩ := p
  rcases pending with _ | ⟨f, value⟩ | text
  · rfl
  · simp only [resolve]
    cases takeValue f value given <;> rfl
  · cases s with
    | onShell c =>
        simp only [resolve]
        split <;> rfl
    | command c | onRecord c | initialise | group entries => rfl

section

variable {strict : Prop} {s : Grammar} {p p' : Progress} (h : p.Alike strict s p')
include h

theorem turn_tracks :
    Progress.Alike strict s { p with operandsOnly := true } { p' with operandsOnly := true } where
  operandsOnly := rfl
  hasOperand := h.hasOperand
  waits := h.waits
  waiting hwaits :=
    let hlevel := h.waiting hwaits
    ⟨hlevel.given, hlevel.pending, hlevel.operand, rfl⟩
  resolved := by
    rw [resolve_operandsOnly, resolve_operandsOnly]
    exact h.resolved.bind fun _ _ hq => .ok ⟨hq.given, hq.pending, hq.operand, rfl⟩

theorem enterSwitch_tracks (f : Flag) :
    Tracks strict (Progress.Alike strict s) (enterSwitch s f p) (enterSwitch s f p') := by
  unfold enterSwitch
  refine h.resolved.bind fun q q' hq => ?_
  refine (takeSwitch_tracks f hq.given).bind fun given given' hgiven => ?_
  exact .ok (Level.alike s ⟨hgiven, hq.pending, hq.operand, hq.operandsOnly⟩)

theorem enterValue_tracks (f : Flag) (attached : Option (List Char)) :
    Tracks strict (Progress.Alike strict s) (enterValue s f attached p)
      (enterValue s f attached p') := by
  unfold enterValue
  refine h.resolved.bind fun q q' hq => ?_
  cases attached with
  | none => exact .ok (Level.alike s ⟨hq.given, rfl, hq.operand, hq.operandsOnly⟩)
  | some text =>
      refine (takeValue_tracks f _ hq.given).bind fun given given' hgiven => ?_
      exact .ok (Level.alike s ⟨hgiven, hq.pending, hq.operand, hq.operandsOnly⟩)

omit h in
theorem enterShort_tracks (text : List Char) (h : p.Alike strict s p') :
    Tracks strict (Progress.Alike strict s) (enterShort s text p) (enterShort s text p') := by
  induction text generalizing p p' with
  | nil => exact .ok h
  | cons c rest ih =>
      unfold enterShort
      split
      · exact tracks_error _
      · split
        · exact enterValue_tracks h _ _
        · exact (enterSwitch_tracks h _).bind fun _ _ hq => ih hq

theorem enterLong_tracks (text : List Char) :
    Tracks strict (Progress.Alike strict s) (enterLong s text p) (enterLong s text p') := by
  unfold enterLong
  dsimp only
  split
  · exact tracks_error _
  · split
    · exact enterValue_tracks h _ _
    · split
      · exact tracks_error _
      · exact enterSwitch_tracks h _

theorem enterOperand_tracks (word : String) :
    Tracks strict (Progress.Alike strict s) (enterOperand s word p) (enterOperand s word p') := by
  unfold enterOperand
  rw [h.hasOperand, h.operandsOnly]
  split
  · exact h.resolved.bind fun q q' hq =>
      .ok (Level.alike s ⟨hq.given, rfl, hq.operand, hq.operandsOnly⟩)
  · split <;> exact tracks_error _

omit h in
theorem enterWord_eq (hwaits : waits p = false) (word : String) :
    enterWord s word p = enterOperand s word p := by
  unfold enterWord
  split
  · rename_i hpending
    simp [waits, hpending] at hwaits
  · rfl

theorem enterWord_tracks (word : String) :
    Tracks strict (Progress.Alike strict s) (enterWord s word p) (enterWord s word p') := by
  cases hwaits : waits p with
  | true =>
      have hlevel := h.waiting hwaits
      unfold enterWord
      rw [← hlevel.pending, ← h.operandsOnly]
      split
      · split
        · exact enterOperand_tracks h word
        · exact .ok (Level.alike s ⟨hlevel.given, rfl, hlevel.operand, rfl⟩)
      · exact enterOperand_tracks h word
  | false =>
      rw [enterWord_eq hwaits, enterWord_eq (h.waits.symm.trans hwaits)]
      exact enterOperand_tracks h word

theorem enter_tracks (arg : String) :
    Tracks strict (Progress.Alike strict s) (enter s arg p) (enter s arg p') := by
  unfold enter
  rw [h.operandsOnly]
  split
  · exact enterWord_tracks h arg
  · split
    · exact .ok (turn_tracks h)
    · exact enterLong_tracks h _
    · exact enterShort_tracks _ h
    · exact enterWord_tracks h arg

end

/-! ## A command -/

section

variable (environment : Environment) {strict : Prop}

theorem variableOf_eq {g g' : Given} (h : g.Alike strict g') (f : Flag) :
    variableOf environment g f = variableOf environment g' f := by
  cases hf : f.isStyle with
  | false => simp only [variableOf, h.has_eq hf]
  | true =>
      -- no variable stands in for what can be left out
      have hnone : f.environmentName? = none := by cases f <;> first | rfl | cases hf
      simp [variableOf, hnone]

theorem askEnvironment_tracks (flags : List Flag) {g g' : Given} (h : g.Alike strict g') :
    Tracks strict (Given.Alike strict) (askEnvironment environment g flags)
      (askEnvironment environment g' flags) := by
  induction flags generalizing g g' with
  | nil => exact .ok h
  | cons f rest ih =>
      unfold askEnvironment
      rw [variableOf_eq environment h]
      split
      · exact ih h
      · rename_i text _
        exact (tracks_refl (fun _ => rfl) (f.read text)).bind fun v _ hv => hv ▸ ih (h.set _ _ _)

theorem complete_tracks (s : Grammar) {g g' : Given} (h : g.Alike strict g')
    (operand : Option String) (inner : Option Command) (isProgram : Bool) :
    Tracks strict Eq (complete s g operand inner isProgram)
      (complete s g' operand inner isProgram) := by
  cases s with
  | command c => exact tracks_refl (fun _ => rfl) _
  | onRecord c => exact tracks_refl (fun _ => rfl) _
  | onShell c => exact tracks_refl (fun _ => rfl) _
  | initialise =>
      unfold complete
      rw [h.has_eq rfl]
      exact .ok rfl
  | group entries =>
      dsimp only [complete]
      split
      · exact .ok rfl
      · have hmissing : ∃ e, (if g.isEmpty then .error .helpForMissingCommand
            else .error .missingCommand : Except UsageError (Option Command)) = .error e := by
          split <;> exact ⟨_, rfl⟩
        obtain ⟨e, he⟩ := hmissing
        rw [he]
        refine .error e fun hstrict => ?_
        rw [← h.isEmpty_eq hstrict, he]

theorem finish_tracks (isProgram : Bool) {s : Grammar} {p p' : Progress} (h : p.Alike strict s p')
    {inner inner' : Option Reading} (hinner : Option.Rel (Reading.Alike strict) inner inner') :
    Tracks strict (Reading.Alike strict) (finish environment isProgram s p inner)
      (finish environment isProgram s p' inner') := by
  have hgiven : Given.Alike strict (inner.elim [] (·.given)) (inner'.elim [] (·.given)) := by
    cases hinner with
    | none => exact .refl _
    | some h => exact h.given
  have hcommand : inner.bind (·.command) = inner'.bind (·.command) := by
    cases hinner with
    | none => rfl
    | some h => exact h.command
  unfold finish
  refine h.resolved.bind fun q q' hq => ?_
  refine (askEnvironment_tracks environment s.flags hq.given).bind fun given given' hall => ?_
  rw [← hq.operand, ← hcommand]
  refine (complete_tracks s hall _ _ isProgram).bind ?_
  rintro command _ rfl
  exact .ok ⟨hall.merge hgiven, rfl⟩

theorem readCommand_tracks (words : List String) (isProgram : Bool) {s : Grammar} {p p' : Progress}
    (h : p.Alike strict s p') :
    Tracks strict (Reading.Alike strict) (readCommand environment isProgram s p words)
      (readCommand environment isProgram s p' words) := by
  -- a command inside is read from its own start, the same in both
  induction words generalizing isProgram s p p' with
  | nil => exact finish_tracks environment isProgram h .none
  | cons word rest ih =>
      unfold readCommand
      rw [h.operandsOnly, h.waits]
      split
      · split
        · rename_i name inner _
          refine Tracks.bind (tracks_refl (Reading.Alike.refl strict) _) fun r r' hr => ?_
          exact finish_tracks environment isProgram h (.some hr)
        · exact tracks_error _
      · exact (enter_tracks h word).bind fun _ _ hq => ih isProgram hq

end

end Arguments

end FlowConsole.Command
