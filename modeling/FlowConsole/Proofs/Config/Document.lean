import FlowConsole.Config.Load
import FlowConsole.Proofs.Toml.Table
/-!
The document of a configuration, as it is read.

One section in front, one of defaults, and one for each profile: together they build one table, with
the profiles in a table of their own even where there is none.
-/
namespace FlowConsole.Config

open Toml (Items Section Simple Statement asItems asValues)

/-! ## The document -/

theorem fits_of_isWritable {v : Simple} (h : isWritable v = true) : v.Fits := by
  cases v with
  | natural n =>
      have hn : n ≤ largestNumber := by simpa [isWritable] using h
      simp only [largestNumber] at hn
      simp only [Simple.Fits, Toml.fits, Bool.and_eq_true, decide_eq_true_eq]
      omega
  | string _ | boolean _ => trivial

def profileSection (name : String) (p : Profile) : Section :=
  { path := ["profiles", name], entries := profileEntries p }

theorem mem_sections {c : Config} {s : Section} (h : s ∈ sections c) : s.path.length ≤ 2 := by
  simp only [sections, List.mem_cons] at h
  rcases h with rfl | rfl | h
  · simp
  · simp
  · split at h
    · obtain rfl := List.mem_singleton.mp h
      simp
    · obtain ⟨e, -, rfl⟩ := List.mem_map.mp h
      simp

theorem text?_eq_some {c : Config} {text : String} (h : text? c = some text) :
    text = Toml.documentText (sections c) ∧ ∀ s ∈ sections c, s.Fits := by
  unfold text? at h
  dsimp only at h
  split at h
  · rename_i hall
    refine ⟨(Option.some.inj h).symm, fun s hs => ⟨?_, fun e he => ?_⟩⟩
    · exact Nat.le_trans (mem_sections hs) (by decide)
    · exact fits_of_isWritable (List.all_eq_true.mp (List.all_eq_true.mp hall s hs) e he)
  · cases h

def rootEntries (c : Config) : List (String × Simple) :=
  entryOf? "default_profile" (c.defaultProfile.map .string)

/-- The numbers of a configuration that may be too large for a file; ports are not. -/
def numbers (c : Config) : List Nat :=
  c.defaults.timeout.toList ++ c.profiles.flatMap fun e => e.2.timeout.toList ++ [e.2.node, e.2.table]

theorem writable_string (key : String) (v : Option String) :
    ∀ e ∈ entryOf? key (v.map .string), isWritable e.2 = true := by
  cases v <;> simp [entryOf?, isWritable]

theorem writable_natural_iff (key : String) (v : Option Nat) :
    (∀ e ∈ entryOf? key (v.map .natural), isWritable e.2 = true) ↔
      ∀ n ∈ v.toList, n ≤ largestNumber := by
  cases v <;> simp [entryOf?, isWritable]

theorem writable_defaults_iff (d : Defaults) :
    (∀ e ∈ defaultsEntries d, isWritable e.2 = true) ↔
      ∀ n ∈ d.timeout.toList, n ≤ largestNumber := by
  simp only [defaultsEntries, List.forall_mem_append, writable_natural_iff]
  simp [isWritable]

theorem writable_profile_iff {p : Profile} (hport : p.port < 2 ^ 16) :
    (∀ e ∈ profileEntries p, isWritable e.2 = true) ↔
      ∀ n ∈ p.timeout.toList ++ [p.node, p.table], n ≤ largestNumber := by
  have hport' : p.port ≤ largestNumber := Nat.le_trans (Nat.le_of_lt hport) (by decide)
  simp only [profileEntries, List.forall_mem_append, writable_natural_iff,
    iff_true_intro (writable_string _ _), and_true]
  simp [isWritable, hport', and_assoc, and_comm]

theorem sections_entries (c : Config) : (sections c).flatMap Section.entries =
    rootEntries c ++ (defaultsEntries c.defaults ++
      c.profiles.flatMap fun e => profileEntries e.2) := by
  unfold sections rootEntries
  split
  · rename_i hempty
    simp [List.isEmpty_iff.mp hempty]
  · simp [List.flatMap_map]

/-- A file can hold a configuration unless one of its numbers is too large. -/
theorem text?_isSome_iff {c : Config} (hports : ∀ e ∈ c.profiles, e.2.port < 2 ^ 16) :
    (text? c).isSome ↔ ∀ n ∈ c.numbers, n ≤ largestNumber := by
  have hall : (text? c).isSome ↔
      ∀ e ∈ (sections c).flatMap Section.entries, isWritable e.2 = true := by
    unfold text?
    simp only [List.forall_mem_flatMap]
    split
    · rename_i h
      simpa using h
    · rename_i h
      simpa using h
  have hroot : ∀ e ∈ rootEntries c, isWritable e.2 = true :=
    writable_string "default_profile" c.defaultProfile
  have hprofiles : (∀ e ∈ c.profiles, ∀ v ∈ profileEntries e.2, isWritable v.2 = true) ↔
      ∀ e ∈ c.profiles, ∀ n ∈ e.2.timeout.toList ++ [e.2.node, e.2.table], n ≤ largestNumber :=
    forall₂_congr fun e he => writable_profile_iff (hports e he)
  rw [hall, sections_entries, numbers]
  simp only [List.forall_mem_append, List.forall_mem_flatMap] at hprofiles ⊢
  rw [writable_defaults_iff, hprofiles]
  exact and_iff_right hroot

theorem defaultsEntries_nodup (d : Defaults) : ((defaultsEntries d).map Prod.fst).Nodup := by
  cases h : d.timeout <;> simp [defaultsEntries, entryOf?, h]

theorem profileEntries_nodup (p : Profile) : ((profileEntries p).map Prod.fst).Nodup := by
  cases hu : p.username <;> cases hp : p.password <;> cases he : p.passwordEnv <;>
    cases ht : p.timeout <;> simp [profileEntries, entryOf?, hu, hp, he, ht]

def profileItems (profiles : List (String × Profile)) : Items :=
  profiles.map fun e => (e.1, .table .header (asItems (profileEntries e.2)))

theorem profileItems_keys (profiles : List (String × Profile)) :
    (profileItems profiles).map Prod.fst = profiles.map Prod.fst := by
  simp [profileItems]

section

variable {before : Items} (hbefore : before.lookup "profiles" = none)
include hbefore

theorem build?_profile {path : List String} {items tables : Items} {name : String} {p : Profile}
    (hopen : items.openTable ["profiles"] name =
      some (before ++ [("profiles", .table .implied (tables ++ [(name, .table .header [])]))]))
    (hnew : tables.lookup name = none) (rest : List Statement) :
    Toml.build? path items ((profileSection name p).statements ++ rest) =
      Toml.build? ["profiles", name] (before ++ [("profiles", .table .implied
        (tables ++ [(name, .table .header (asItems (profileEntries p)))]))]) rest := by
  have hopens : Items.Opens .header ["profiles", name] .header fun entries =>
      before ++ [("profiles", .table .implied (tables ++ [(name, .table .header entries)]))] :=
    ((Items.opens_nil .header).cons hnew).cons hbefore
  have hentries := Toml.build?_entries hopens (by decide) (profileEntries_nodup p) rest
  have hstatements : (profileSection name p).statements ++ rest = .header ["profiles"] name ::
      ((profileEntries p).map (fun e => .entry [] e.1 e.2.toValue) ++ rest) := rfl
  rw [hstatements, Toml.build?, hopen]
  exact hentries

theorem build?_profiles {profiles seen : List (String × Profile)} (path : List String)
    (hnodup : ((seen ++ profiles).map Prod.fst).Nodup) :
    Toml.build? path (before ++ [("profiles", .table .implied (profileItems seen))])
        (profiles.flatMap fun e => (profileSection e.1 e.2).statements) =
      some (before ++ [("profiles", .table .implied (profileItems (seen ++ profiles)))]) := by
  induction profiles generalizing seen path with
  | nil =>
      rw [List.append_nil]
      rfl
  | cons e profiles ih =>
      have hnew : (profileItems seen).lookup e.1 = none := by
        rw [List.map_append, List.map_cons, List.nodup_middle, List.nodup_cons] at hnodup
        rw [Entries.lookup_eq_none_iff, profileItems_keys]
        exact fun hmem => hnodup.1 (List.mem_append_left _ hmem)
      have hseen : profileItems seen ++ [(e.1, .table .header (asItems (profileEntries e.2)))] =
          profileItems (seen ++ [e]) := by
        simp [profileItems]
      have hnodup' : (((seen ++ [e]) ++ profiles).map Prod.fst).Nodup := by simpa using hnodup
      have hrest := ih ["profiles", e.1] hnodup'
      rw [List.flatMap_cons, build?_profile hbefore (Items.openTable_next hbefore hnew) hnew, hseen]
      simpa using hrest

end

def document (c : Config) : Toml.Table :=
  asValues (rootEntries c) ++
    [("defaults", .table (asValues (defaultsEntries c.defaults))),
      ("profiles", .table (c.profiles.map fun e => (e.1, .table (asValues (profileEntries e.2)))))]

theorem entriesToValues_profileItems (profiles : List (String × Profile)) :
    Toml.entriesToValues (profileItems profiles) =
      profiles.map fun e => (e.1, .table (asValues (profileEntries e.2))) := by
  simp [profileItems, Toml.entriesToValues_eq_map, Toml.Item.toValue, asItems, asValues]

def frontItems (c : Config) : Items :=
  asItems (rootEntries c) ++ [("defaults", .table .header (asItems (defaultsEntries c.defaults)))]

theorem build?_front (c : Config) (rest : List Statement) :
    Toml.build? [] [] ((Section.mk [] (rootEntries c)).statements ++
        ((Section.mk ["defaults"] (defaultsEntries c.defaults)).statements ++ rest)) =
      Toml.build? ["defaults"] (frontItems c) rest := by
  have hroot : ((rootEntries c).map Prod.fst).Nodup := by
    unfold rootEntries
    cases c.defaultProfile <;> simp [entryOf?]
  have hnew : (asItems (rootEntries c)).lookup "defaults" = none := by
    unfold rootEntries
    cases c.defaultProfile <;> simp [entryOf?, asItems]
  have hdefaults := Toml.build?_entries ((Items.opens_nil .header).cons hnew) (by decide)
    (defaultsEntries_nodup c.defaults) rest
  refine (Toml.build?_entries (Items.opens_nil .header) (by decide) hroot _).trans ?_
  change Toml.build? [] (asItems (rootEntries c)) (.header [] "defaults" :: _) = _
  rw [Toml.build?, Items.openTable_new hnew]
  exact hdefaults

theorem build?_sections {c : Config} (hnames : c.profileNames.Nodup) :
    (Toml.build? [] [] ((sections c).flatMap Section.statements)).map Toml.entriesToValues =
      some (document c) := by
  have hnew : (frontItems c).lookup "profiles" = none := by
    unfold frontItems rootEntries
    cases c.defaultProfile <;> simp [entryOf?, asItems]
  have hfront : ∀ item : Toml.Item, Toml.entriesToValues (frontItems c ++ [("profiles", item)]) =
      asValues (rootEntries c) ++ [("defaults", .table (asValues (defaultsEntries c.defaults))),
        ("profiles", item.toValue)] := by
    intro item
    simp [frontItems, Toml.entriesToValues_eq_map, Toml.Item.toValue, asItems, asValues,
      Function.comp_def]
  have hsections : (sections c).flatMap Section.statements =
      (Section.mk [] (rootEntries c)).statements ++
        ((Section.mk ["defaults"] (defaultsEntries c.defaults)).statements ++
          (if c.profiles.isEmpty then [.header [] "profiles"]
            else c.profiles.flatMap fun e => (profileSection e.1 e.2).statements)) := by
    have hcons : (sections c).flatMap Section.statements =
        (Section.mk [] (rootEntries c)).statements ++
          ((Section.mk ["defaults"] (defaultsEntries c.defaults)).statements ++
            (if c.profiles.isEmpty then [Section.mk ["profiles"] []]
              else c.profiles.map fun e => profileSection e.1 e.2).flatMap Section.statements) :=
      rfl
    rw [hcons]
    split
    · rfl
    · rw [List.flatMap_map]
  rw [hsections, build?_front]
  cases hprofiles : c.profiles with
  | nil =>
      simp only [List.isEmpty_nil, if_true]
      rw [Toml.build?, Items.openTable_new hnew]
      refine (congrArg some (hfront _)).trans ?_
      simp [document, hprofiles, Toml.Item.toValue, Toml.entriesToValues]
  | cons e profiles =>
      simp only [List.isEmpty_cons, Bool.false_eq_true, if_false]
      have hopen := Items.openTable_implied hnew e.1
      have hnodup : (([e] ++ profiles).map Prod.fst).Nodup := by
        simpa [Config.profileNames, hprofiles] using hnames
      have hrest := build?_profiles hnew ["profiles", e.1] hnodup
      have hfirst : (([] : Items).lookup e.1) = none := rfl
      rw [List.flatMap_cons, build?_profile hnew hopen hfirst]
      refine (congrArg (Option.map Toml.entriesToValues) hrest).trans ?_
      refine (congrArg some (hfront _)).trans ?_
      simp [document, hprofiles, Toml.Item.toValue, entriesToValues_profileItems]

theorem parse?_text {c : Config} (hnames : c.profileNames.Nodup) {text : String}
    (htext : text? c = some text) : Toml.parse? text = some (document c) := by
  obtain ⟨rfl, hfits⟩ := text?_eq_some htext
  rw [Toml.parse?_documentText hfits, build?_sections hnames]

end FlowConsole.Config
