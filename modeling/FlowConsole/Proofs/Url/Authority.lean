import Mathlib.Data.List.TakeWhile
import FlowConsole.Proofs.Text.Split
import FlowConsole.Url.Reader
/-!
The part of a URL in front of its path.

Whatever stands there is read without a look at what follows it, as if the text ended there. So the
path can neither make nor mend a fault in host or port, and the other way round.
-/
namespace FlowConsole.Url

open Text

/-- Blanks and controls, which are dropped at both ends of a URL. -/
def isEdge (c : Char) : Bool := c.toNat ≤ 0x20

/-- Tabs and line breaks, which are dropped everywhere in a URL. -/
def isBreak (c : Char) : Bool := c == '\t' || c == '\n' || c == '\r'

/-- What is left of the end of a URL. -/
def cleanEnd (s : List Char) : List Char :=
  (dropEndWhile isEdge s).filter fun c => !isBreak c

/-- A URL with path, query and fragment read from a text. -/
def locate (site : Url) (special : Bool) (s : List Char) : Url :=
  let path := readPath special s
  let tail := readQueryFragment special path.2
  { site with path := path.1, query := tail.1, fragment := tail.2 }

theorem clean_append_slash {c : Char} (hc : isEdge c = false) (s t : List Char) :
    clean (c :: s ++ '/' :: t) = (c :: s).filter (fun d => !isBreak d) ++ '/' :: cleanEnd t := by
  have hstart : (c :: s ++ '/' :: t).dropWhile isEdge = c :: s ++ '/' :: t := by
    rw [List.cons_append, List.dropWhile_cons, if_neg (by simp [hc])]
  have hclean : clean (c :: s ++ '/' :: t) =
      (dropEndWhile isEdge ((c :: s ++ '/' :: t).dropWhile isEdge)).filter fun d => !isBreak d :=
    rfl
  rw [hclean, hstart, dropEndWhile_append_cons (c :: s) t (by decide), List.filter_append,
    List.filter_cons_of_pos (a := '/') (by decide)]
  rfl

theorem cleanEnd_append_slash (s t : List Char) :
    cleanEnd (s ++ '/' :: t) = s.filter (fun c => !isBreak c) ++ '/' :: cleanEnd t := by
  unfold cleanEnd
  rw [dropEndWhile_append_cons s t (by decide), List.filter_append,
    List.filter_cons_of_pos (a := '/') (by decide)]

/-! ## Fronts -/

/-- A text without a character that begins a path, a query or a fragment. -/
def IsFront (s : List Char) : Prop := ∀ c ∈ s, endsAuthority true c = false

/-- A text that is empty or begins with such a character. -/
def EndsFront (t : List Char) : Prop := ∀ c, t.head? = some c → endsAuthority true c = true

def front (s : List Char) : List Char := s.takeWhile fun c => !endsAuthority true c

def behindFront (s : List Char) : List Char := s.dropWhile fun c => !endsAuthority true c

theorem front_append_behindFront (s : List Char) : front s ++ behindFront s = s :=
  List.takeWhile_append_dropWhile

theorem isFront_front (s : List Char) : IsFront (front s) := by
  intro c hc
  simpa using List.mem_takeWhile_imp hc

theorem endsFront_behindFront_append (s : List Char) {t : List Char} (ht : EndsFront t) :
    EndsFront (behindFront s ++ t) := by
  intro c hc
  have hhead := List.head?_dropWhile_not (fun c => !endsAuthority true c) s
  unfold behindFront at hc
  cases hrest : s.dropWhile (fun c => !endsAuthority true c) with
  | nil =>
      rw [hrest] at hc
      exact ht c hc
  | cons d rest =>
      rw [hrest] at hc hhead
      obtain rfl : d = c := by simpa using hc
      simpa using hhead

theorem front_eq_self {s : List Char} (h : IsFront s) : front s = s :=
  List.takeWhile_eq_self_iff.mpr fun c hc => by simp [h c hc]

theorem behindFront_eq_nil {s : List Char} (h : IsFront s) : behindFront s = [] :=
  List.dropWhile_eq_nil_iff.mpr fun c hc => by simp [h c hc]

theorem front_append {s t : List Char} (hs : IsFront s) (ht : EndsFront t) : front (s ++ t) = s := by
  unfold front
  rw [List.takeWhile_append_of_pos fun c hc => by simp [hs c hc]]
  cases t with
  | nil => simp
  | cons c t => simp [ht c rfl]

theorem IsFront.of_append_right {s t : List Char} (h : IsFront (s ++ t)) : IsFront t :=
  fun c hc => h c (List.mem_append_right s hc)

theorem IsFront.of_append_left {s t : List Char} (h : IsFront (s ++ t)) : IsFront s :=
  fun c hc => h c (List.mem_append_left t hc)

theorem IsFront.of_cons {c : Char} {s : List Char} (h : IsFront (c :: s)) : IsFront s :=
  fun d hd => h d (List.mem_cons_of_mem c hd)

/-! ## User information -/

theorem splitUserInfo_of_not_mem {s : List Char} (hs : IsFront s) (h : '@' ∉ s) :
    splitUserInfo true s = none := by
  have hself : s.takeWhile (fun c => !endsAuthority true c) = s := front_eq_self hs
  unfold splitUserInfo
  simp only [hself, takeWhile_reverse_eq_self h, List.reverse_reverse, if_true]

theorem splitUserInfo_append_at {info rest : List Char} (hs : IsFront (info ++ '@' :: rest))
    (h : '@' ∉ rest) : splitUserInfo true (info ++ '@' :: rest) = some (info, rest) := by
  have hself : (info ++ '@' :: rest).takeWhile (fun c => !endsAuthority true c) =
      info ++ '@' :: rest := front_eq_self hs
  have hlength : (info ++ '@' :: rest).length = info.length + (rest.length + 1) := by simp
  have hinfo : info.length + (rest.length + 1) - rest.length - 1 = info.length := by omega
  have hdrop : info.length + (rest.length + 1) - rest.length = (info ++ ['@']).length := by
    simp
    omega
  have hparts : info ++ '@' :: rest = (info ++ ['@']) ++ rest := by simp
  unfold splitUserInfo
  simp only [hself, takeWhile_reverse_append h, List.reverse_reverse, hlength, hinfo,
    List.take_left]
  rw [if_neg (by omega), hdrop, hparts, List.drop_left]

section

variable {t : List Char} (ht : EndsFront t)
include ht

theorem takeHost_append (bracketed : Bool) (s : List Char) :
    takeHost true bracketed (s ++ t) =
      ((takeHost true bracketed s).1, (takeHost true bracketed s).2 ++ t) := by
  induction s generalizing bracketed with
  | nil =>
      cases t with
      | nil => rfl
      | cons c t => simp [takeHost, ht c rfl]
  | cons c s ih =>
      simp only [List.cons_append, takeHost]
      split
      · rfl
      · simp only [ih]

theorem splitUserInfo_append {s : List Char} (hs : IsFront s) :
    splitUserInfo true (s ++ t) = (splitUserInfo true s).map fun r => (r.1, r.2 ++ t) := by
  have happend : (s ++ t).takeWhile (fun c => !endsAuthority true c) = s := front_append hs ht
  have hself : s.takeWhile (fun c => !endsAuthority true c) = s := front_eq_self hs
  unfold splitUserInfo
  simp only [happend, hself]
  split
  · rfl
  · rw [List.drop_append_of_le_length (Nat.sub_le _ _)]
    rfl

end

/-! ## The parts of a front -/

/-- The host of a text that was cut off in front of a port or path. -/
def hostOfTaken (s : List Char) : Except Error Host :=
  if s.isEmpty then .error .emptyHost else hostOfText s

/-- The port of what stands behind a host. -/
def portAfter (s : List Char) : Except Error (Option Nat) :=
  match s with
  | ':' :: digits =>
    if digits.all Char.isDigit ∧ digits.foldl (fun n c => n * 10 + (c.toNat - 48)) 0 ≤ 65535 then
      .ok (writtenPort? "http" digits)
    else .error .invalidPort
  | _ => .ok none

def siteOf (userInfo : List Char) (host : Host) (port : Option Nat) : Url :=
  { scheme := "http", username := (userInfoOf userInfo).1, password := (userInfoOf userInfo).2
    host := some host, port, path := "", query := none, fragment := none }

/-- What the text in front of a path is read as. -/
def siteOfFront (s : List Char) : Except Error Url :=
  let parts := (splitUserInfo true s).getD ([], s)
  let taken := takeHost true false parts.2
  (hostOfTaken taken.1).bind fun host => (portAfter taken.2).map fun port => siteOf parts.1 host port

theorem hostOfText_ne_domain_empty {s : List Char} {host : Host} (h : hostOfText s = .ok host) :
    host ≠ .domain "" := by
  unfold hostOfText bracketedHost at h
  rintro rfl
  split at h
  · split at h
    · split at h <;> simp at h
    · simp at h
  · split at h
    · simp at h
    · rename_i name _
      split at h
      · simp at h
      · rename_i hname
        split at h
        · split at h <;> simp at h
        · have hempty : String.ofList name = String.ofList [] := Host.domain.inj (Except.ok.inj h)
          simp [String.ofList_inj.mp hempty] at hname

theorem hostOfTaken_ne_domain_empty {s : List Char} {host : Host} (h : hostOfTaken s = .ok host) :
    host ≠ .domain "" := by
  unfold hostOfTaken at h
  split at h
  · simp at h
  · exact hostOfText_ne_domain_empty h

theorem takeHost_rest {s : List Char} (hs : IsFront s) (bracketed : Bool) :
    (takeHost true bracketed s).2 = [] ∨
      ∃ port, (takeHost true bracketed s).2 = ':' :: port ∧ IsFront port := by
  induction s generalizing bracketed with
  | nil => exact .inl rfl
  | cons c s ih =>
      have hc := hs c List.mem_cons_self
      have hrest : IsFront s := fun d hd => hs d (List.mem_cons_of_mem c hd)
      rw [takeHost]
      split
      · rename_i hstop
        rcases hstop with ⟨rfl, -⟩ | hends
        · exact .inr ⟨s, rfl, hrest⟩
        · simp [hc] at hends
      · exact ih hrest _

section

variable {t : List Char} (ht : EndsFront t)
include ht

theorem isDigit_of_head_endsFront {c : Char} (hc : t.head? = some c) : c.isDigit = false := by
  have hends := ht c hc
  simp only [endsAuthority, Bool.or_eq_true, beq_iff_eq, Bool.true_and] at hends
  rcases hends with ((rfl | rfl) | rfl) | rfl <;> decide

theorem readPort_append (scheme : String) {s : List Char} (hs : IsFront s) :
    readPort scheme (s ++ t) =
      if s.all Char.isDigit ∧ s.foldl (fun n c => n * 10 + (c.toNat - 48)) 0 ≤ 65535 then
        .ok (writtenPort? scheme s, t)
      else .error .invalidPort := by
  by_cases hall : s.all Char.isDigit = true
  · have hdigits : ∀ c ∈ s, c.isDigit = true := List.all_eq_true.mp hall
    have htake : t.takeWhile Char.isDigit = [] := by
      cases t with
      | nil => rfl
      | cons c t => simp [isDigit_of_head_endsFront ht (c := c) rfl]
    have hdrop : t.dropWhile Char.isDigit = t := by
      cases t with
      | nil => rfl
      | cons c t => simp [isDigit_of_head_endsFront ht (c := c) rfl]
    have hend : t.head?.elim true (endsAuthority true) = true := by
      cases t with
      | nil => rfl
      | cons c t => exact ht c rfl
    unfold readPort
    simp only [List.takeWhile_append_of_pos hdigits, List.dropWhile_append_of_pos hdigits, htake,
      hdrop, List.append_nil, hend, if_true, hall, true_and]
    by_cases hle : s.foldl (fun n c => n * 10 + (c.toNat - 48)) 0 ≤ 65535
    · rw [if_neg (by omega), if_pos hle]
    · rw [if_pos (by omega), if_neg hle]
  · -- A character that is no digit stops the port, and it does not end the front.
    obtain ⟨c, rest, hrest⟩ : ∃ c rest, s.dropWhile Char.isDigit = c :: rest := by
      apply List.exists_cons_of_ne_nil
      rw [Ne, List.dropWhile_eq_nil_iff]
      exact fun h => hall (List.all_eq_true.mpr h)
    have hc : endsAuthority true c = false :=
      hs c ((List.dropWhile_sublist _).subset (hrest ▸ List.mem_cons_self))
    have hdrop : (s ++ t).dropWhile Char.isDigit = c :: (rest ++ t) := by
      rw [List.dropWhile_append, hrest]
      rfl
    have hright : ¬ (s.all Char.isDigit = true ∧
        s.foldl (fun n c => n * 10 + (c.toNat - 48)) 0 ≤ 65535) := fun h => hall h.1
    rw [if_neg hright]
    unfold readPort
    simp only [hdrop, List.head?_cons, Option.elim_some, hc, Bool.false_eq_true, if_false, ite_self]

theorem readHostPort_append {s : List Char} (hs : IsFront s) :
    readHostPort "http" .hostBased (s ++ t) =
      (hostOfTaken (takeHost true false s).1).bind fun host =>
        (portAfter (takeHost true false s).2).map fun port => (host, port, t) := by
  have hread : readHostPort "http" .hostBased (s ++ t) =
      (hostOfTaken (takeHost true false s).1).bind fun host =>
        match (takeHost true false s).2 ++ t with
        | ':' :: rest =>
          if host = .domain "" then .error .emptyHost
          else (readPort "http" rest).map fun r => (host, r)
        | rest => .ok (host, none, rest) := by
    have hspecial : SchemeKind.hostBased.isSpecial = true := rfl
    have hkind : ¬ SchemeKind.hostBased = .other := by decide
    unfold readHostPort hostOfTaken
    simp only [hspecial, takeHost_append ht, if_neg hkind]
    split
    · rfl
    · cases hostOfText (takeHost true false s).1 <;> rfl
  rw [hread]
  cases hhost : hostOfTaken (takeHost true false s).1 with
  | error e => rfl
  | ok host =>
      have hne := hostOfTaken_ne_domain_empty hhost
      simp only [Except.bind]
      rcases takeHost_rest hs false with hrest | ⟨port, hrest, hport⟩
      · rw [hrest, List.nil_append]
        cases t with
        | nil => rfl
        | cons c t =>
            have hc : c ≠ ':' := by
              rintro rfl
              exact absurd (ht ':' rfl) (by decide)
            simp [hc, portAfter, Except.map]
      · rw [hrest, List.cons_append]
        simp only [if_neg hne, readPort_append ht "http" hport, portAfter]
        split <;> rfl

theorem readHostPort_append_bind (info : List Char) {rest : List Char} (hrest : IsFront rest) :
    ((readHostPort "http" .hostBased (rest ++ t)).bind fun h =>
      if h.1 = .domain "" ∧ ((userInfoOf info).1 ≠ "" ∨ (userInfoOf info).2 ≠ none) then
        .error .emptyHost
      else .ok (locate (siteOf info h.1 h.2.1) true h.2.2)) =
    ((hostOfTaken (takeHost true false rest).1).bind fun host =>
      (portAfter (takeHost true false rest).2).map fun port => siteOf info host port).map
        fun site => locate site true t := by
  rw [readHostPort_append ht hrest]
  cases hhost : hostOfTaken (takeHost true false rest).1 with
  | error e => rfl
  | ok host =>
      have hne := hostOfTaken_ne_domain_empty hhost
      cases portAfter (takeHost true false rest).2 with
      | error e => rfl
      | ok port => simp [Except.bind, Except.map, hne]

/-- What stands in front of a path is read as if the text ended with it. -/
theorem readAuthority_append {s : List Char} (hs : IsFront s) :
    readAuthority "http" .hostBased (s ++ t) =
      (siteOfFront s).map fun site => locate site true t := by
  have hspecial : SchemeKind.hostBased.isSpecial = true := rfl
  unfold readAuthority siteOfFront
  simp only [hspecial, splitUserInfo_append ht hs]
  by_cases hat : '@' ∈ s
  · obtain ⟨info, rest, rfl, hrest⟩ := exists_eq_append_last hat
    have hfront : IsFront rest := hs.of_append_right.of_cons
    rw [splitUserInfo_append_at hs hrest]
    cases info with
    | cons c info => exact readHostPort_append_bind ht (c :: info) hfront
    | nil =>
        cases rest with
        | cons d rest =>
            have hd : endsAuthority true d = false := hfront d List.mem_cons_self
            have hread := readHostPort_append_bind ht [] hfront
            simp only [Option.map_some, List.cons_append, List.head?_cons, Option.elim_some, hd]
            exact hread
        | nil =>
            cases t with
            | nil => rfl
            | cons c t =>
                simp only [Option.map_some, List.nil_append, List.head?_cons, Option.elim_some,
                  ht c rfl]
                rfl
  · rw [splitUserInfo_of_not_mem hs hat]
    exact readHostPort_append_bind ht [] hs

end

end FlowConsole.Url
