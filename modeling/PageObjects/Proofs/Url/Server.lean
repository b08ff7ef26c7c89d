/-
  PageObjects.Proofs.Url.Server

  The server of an address. Each part of an authority that was read is written the
  way it is read: the user encoded, the host as it is read again, and no port that the
  scheme implies. So the text of an authority is read as that authority, or its host
  is refused; what follows is the path.

    * `behindSlashes_eq`: reading an authority, step by step.
    * `canonical_of_behindSlashes`: an authority that was read is canonical.
    * `behindSlashes_render`: the text of a canonical authority is read as it.
-/

import PageObjects.Proofs.Url.Ends
import PageObjects.Proofs.Url.Host

namespace PageObjects
namespace Url

variable {kind : SchemeKind} {scheme : String} {s : List Char} {a : Authority}

-- ============================================================================
-- Authorities
-- ============================================================================

/-- Reads a host of a scheme of this kind. -/
def readHost (kind : SchemeKind) (s : List Char) : Except UrlFault String :=
  if kind == .special then Host.parseSpecial s else Host.parseOpaque s

/-- The text of a user is empty, or it is what an encoded user is read as. -/
inductive CanonicalUser : String → Prop
  | none : CanonicalUser ""
  | some {user : List Char} (h_ne : user ≠ [])
      (h_fixed : userinfo user = String.ofList (user ++ ['@']))
      (h_clean : ∀ c ∈ user, 0x20 < c.toNat ∧ c ∉ "/\\?#@".toList) :
      CanonicalUser (String.ofList (user ++ ['@']))

/-- Each part of the authority is written as it is read. -/
structure CanonicalAuthority (scheme : String) (a : Authority) : Prop where
  user : CanonicalUser a.userinfo
  host : Host.Rereads (readHost (.of scheme)) a.host
  port : ∀ n ∈ a.port, n ≤ 65535 ∧ defaultPort? scheme ≠ some n
  named : a.host = "" → a.userinfo = "" ∧ a.port = none ∧ SchemeKind.of scheme = .other

theorem clean_of_mem_encodeUser {c : Char} (h : c ∈ Percent.encode Percent.inUserinfo s) :
    (0x20 < c.toNat ∧ c ∉ "/\\?#@".toList) ∧ c ≠ ':' := by
  have h_set := Percent.not_set_of_mem_encode Percent.sparesEscapes_inUserinfo h
  have h_in : ∀ mark ∈ ":/\\?#@".toList, Percent.inUserinfo mark = true :=
    Text.forall_mem_of_all (by decide)
  have h_not : ∀ mark ∈ ":/\\?#@".toList, c ≠ mark := by
    rintro mark h_mark rfl
    exact absurd (h_in c h_mark) (by rw [h_set]; exact Bool.false_ne_true)
  have h_path : Percent.inPath c = false := by
    rw [Bool.eq_false_iff]
    intro h_path
    rw [Percent.inUserinfo, h_path] at h_set
    cases h_set
  exact ⟨⟨(visible_of_inPath h_path).1, fun h_mem => h_not c (List.mem_cons_of_mem ':' h_mem) rfl⟩,
    h_not ':' List.mem_cons_self⟩

theorem userinfo_append {name password : List Char} (h : ':' ∉ name) (h_ne : password ≠ []) :
    userinfo (name ++ ':' :: password) = String.ofList (Percent.encode Percent.inUserinfo name
      ++ ':' :: Percent.encode Percent.inUserinfo password ++ ['@']) := by
  obtain ⟨c, rest, rfl⟩ := List.exists_cons_of_ne_nil h_ne
  simp only [userinfo, Text.cut_append h]

theorem userinfo_of_not_mem {name : List Char} (h : ':' ∉ name) (h_ne : name ≠ []) :
    userinfo name = String.ofList (Percent.encode Percent.inUserinfo name ++ ['@']) := by
  obtain ⟨c, rest, rfl⟩ := List.exists_cons_of_ne_nil h_ne
  simp only [userinfo, Text.cut_of_not_mem h]
  rfl

theorem canonicalUser_userinfo (s : List Char) : CanonicalUser (userinfo s) := by
  have h_colon : ∀ part, ':' ∉ Percent.encode Percent.inUserinfo part :=
    fun part h_mem => (clean_of_mem_encodeUser h_mem).2 rfl
  have h_again := Percent.encode_encode Percent.sparesEscapes_inUserinfo
  unfold userinfo
  dsimp only
  split
  · rename_i name c password _
    have h_password : Percent.encode Percent.inUserinfo (c :: password) ≠ [] :=
      Percent.encode_ne_nil (List.cons_ne_nil c password)
    refine .some (by simp) ?_ fun d h_mem => ?_
    · rw [userinfo_append (h_colon name) h_password, h_again, h_again]
    · rcases List.mem_append.mp h_mem with h_mem | h_mem
      · exact (clean_of_mem_encodeUser h_mem).1
      · rcases List.mem_cons.mp h_mem with rfl | h_mem
        · decide
        · exact (clean_of_mem_encodeUser h_mem).1
  · rename_i name _ _ _
    split
    · exact .none
    · rename_i h_name
      have h_ne : Percent.encode Percent.inUserinfo name ≠ [] :=
        Percent.encode_ne_nil fun h_nil => h_name (List.isEmpty_iff.mpr h_nil)
      refine .some h_ne ?_ fun d h_mem => (clean_of_mem_encodeUser h_mem).1
      rw [userinfo_of_not_mem (h_colon name) h_ne, h_again]

theorem port_canonical {digits : List Char} {result : Option Nat}
    (h : port scheme digits = .ok result) :
    ∀ n ∈ result, n ≤ 65535 ∧ defaultPort? scheme ≠ some n := by
  intro n h_n
  rw [port] at h
  split at h
  · cases h
    cases h_n
  · split at h
    · cases h
    · split at h
      · cases h
      · rename_i h_le
        have h := Except.ok.inj h
        split at h
        · rw [← h] at h_n
          cases h_n
        · rename_i h_default
          rw [← h] at h_n
          obtain rfl := Option.some.inj h_n
          exact ⟨by omega, h_default⟩

-- ============================================================================
-- Reading an authority
-- ============================================================================

/-- A host with the port behind it. -/
def withPort (scheme host : String) : List Char → Except UrlFault (String × Option Nat)
  | ':' :: digits =>
    if host.isEmpty then .error .emptyHost
    else (port scheme digits).map fun number => (host, number)
  | _ => .ok (host, none)

theorem withPort_of_ne {host : String} (h : ∀ digits, s = ':' :: digits → False) :
    withPort scheme host s = .ok (host, none) := by
  unfold withPort
  split
  · exact (h _ rfl).elim
  · rfl

theorem hostAndPort_eq (kind : SchemeKind) (scheme : String) (s : List Char) :
    hostAndPort kind scheme s =
      if kind == .special && (s.take (hostLength false s)).isEmpty then .error .emptyHost
      else (readHost kind (s.take (hostLength false s))).bind fun host =>
        withPort scheme host (s.drop (hostLength false s)) := by
  unfold hostAndPort readHost
  dsimp only
  generalize s.drop (hostLength false s) = rest
  split
  · rfl
  · refine (ite_congr rfl (fun _ => ?_) fun _ => ?_).trans (apply_ite (Except.bind · _) _ _ _).symm
    all_goals
      refine bind_congr fun host => ?_
      split
      · rename_i digits
        rw [withPort]
        split
        · rfl
        · cases port scheme digits <;> rfl
      · rename_i h_colon
        exact (withPort_of_ne h_colon).symm

/-- Whether `c` belongs to the text of a server. -/
def inServer (kind : SchemeKind) (c : Char) : Bool :=
  !(c == '/' || c == '?' || c == '#' || (kind.isSpecial && c == '\\'))

theorem inServer_of_mem {c : Char} (h : c ∈ "/?#".toList) : inServer kind c = false := by
  have h_all : ∀ c ∈ "/?#".toList, ∀ isSpecial : Bool,
      (!(c == '/' || c == '?' || c == '#' || (isSpecial && c == '\\'))) = false :=
      Text.forall_mem_of_all (by decide)
  exact h_all c h kind.isSpecial

theorem inServer_of_not_mem {c : Char} (h : c ∉ "/\\?#".toList) : inServer kind c = true := by
  have h_ne : ∀ mark ∈ "/\\?#".toList, (c == mark) = false := fun mark h_mark =>
    beq_eq_false_iff_ne.mpr fun h_eq => h (h_eq ▸ h_mark)
  rw [inServer, h_ne '/' (by decide), h_ne '?' (by decide), h_ne '#' (by decide),
    h_ne '\\' (by decide), Bool.and_false]
  rfl

/-- The user and the rest of the text of a server. -/
def userAndHost (server : List Char) : List Char × List Char :=
  (splitUserinfo? server).getD ([], server)

/-- An address on a server; its path starts with a slash where a scheme wants one. -/
def onServer (kind : SchemeKind) (scheme : String) (a : Authority) (rest : List Char) : Url :=
  match kind, rest with
  | .other, [] => withPath kind scheme a "" []
  | .other, c :: _ =>
    if c = '?' ∨ c = '#' ∨ c = '/' then withPath kind scheme a "" rest
    else withPath kind scheme a "/" rest
  | _, c :: behind => withPath kind scheme a "/" (if isSlash c then behind else rest)
  | _, [] => withPath kind scheme a "/" []

/-- The text between the two slashes and the path, and what stands behind it, as an address. -/
def readServer (kind : SchemeKind) (scheme : String) (server rest : List Char) :
    Except UrlFault Url :=
  let user := (userAndHost server).1
  let (hostText, rest) := behindSlashes.splitPortTail (userAndHost server).2 rest
  (hostAndPort kind scheme hostText).bind fun (host, port) =>
    if host.isEmpty && !(userinfo user).isEmpty then .error .emptyHost
    else .ok (onServer kind scheme { userinfo := userinfo user, host, port } rest)

/-- A user without a name before a host without a name is refused, unless nothing follows. -/
theorem behindSlashes_eq (kind : SchemeKind) (scheme : String) (s : List Char) :
    behindSlashes kind scheme s =
      if (userAndHost (s.takeWhile (inServer kind))).1.isEmpty
          && (splitUserinfo? (s.takeWhile (inServer kind))).isSome
          && (userAndHost (s.takeWhile (inServer kind))).2.isEmpty
          && !(s.dropWhile (inServer kind)).isEmpty then .error .emptyHost
      else readServer kind scheme (s.takeWhile (inServer kind)) (s.dropWhile (inServer kind)) := by
  unfold behindSlashes readServer userAndHost inServer
  dsimp only
  refine ite_congr rfl (fun _ => rfl) fun _ => ?_
  refine bind_congr fun found => ?_
  refine ite_congr rfl (fun _ => rfl) fun _ => ?_
  generalize (behindSlashes.splitPortTail _ _).2 = rest
  cases kind with
  | special => cases rest <;> rfl
  | file => cases rest <;> rfl
  | other =>
    cases rest with
    | nil => rfl
    | cons c behind => exact (apply_ite Except.ok _ _ _).symm

-- ============================================================================
-- Authorities that were read
-- ============================================================================

theorem rereads_readHost {host : String} (h : readHost kind s = .ok host) :
    Host.Rereads (readHost kind) host ∧ (kind = .special → host ≠ "") := by
  cases kind with
  | special =>
    obtain ⟨h_rereads, h_ne⟩ := Host.rereads_parseSpecial h
    exact ⟨h_rereads, fun _ => h_ne⟩
  | file => exact ⟨Host.rereads_parseOpaque h, fun h_kind => nomatch h_kind⟩
  | other => exact ⟨Host.rereads_parseOpaque h, fun h_kind => nomatch h_kind⟩

theorem canonical_withPort {host name : String} {number : Option Nat}
    (h : withPort scheme host s = .ok (name, number)) :
    name = host ∧ (∀ n ∈ number, n ≤ 65535 ∧ defaultPort? scheme ≠ some n)
      ∧ (host = "" → number = none) := by
  unfold withPort at h
  split at h
  · rename_i digits
    split at h
    · cases h
    · rename_i h_named
      cases h_port : port scheme digits with
      | error e => rw [h_port] at h; cases h
      | ok result =>
        rw [h_port] at h
        obtain ⟨rfl, rfl⟩ := Prod.mk.inj (Except.ok.inj h)
        exact ⟨rfl, port_canonical h_port, fun h_empty => absurd (h_empty ▸ rfl) h_named⟩
  · obtain ⟨rfl, rfl⟩ := Prod.mk.inj (Except.ok.inj h)
    exact ⟨rfl, fun n h_n => (nomatch h_n), fun _ => rfl⟩

theorem canonical_hostAndPort (h_file : SchemeKind.of scheme ≠ .file) {host : String}
    {number : Option Nat} {user : String}
    (h : hostAndPort (.of scheme) scheme s = .ok (host, number)) (h_user : CanonicalUser user)
    (h_named : host = "" → user = "") :
    CanonicalAuthority scheme { userinfo := user, host, port := number } := by
  rw [hostAndPort_eq] at h
  split at h
  · cases h
  · cases h_host : readHost (.of scheme) (s.take (hostLength false s)) with
    | error e => rw [h_host] at h; cases h
    | ok read =>
      rw [h_host] at h
      obtain ⟨rfl, h_port, h_none⟩ := canonical_withPort h
      obtain ⟨h_rereads, h_special⟩ := rereads_readHost h_host
      refine ⟨h_user, h_rereads, h_port, fun h_empty => ⟨h_named h_empty, h_none h_empty, ?_⟩⟩
      cases h_kind : SchemeKind.of scheme with
      | special => exact absurd h_empty (h_special h_kind)
      | file => exact absurd h_kind h_file
      | other => rfl

/-- Behind two slashes an address is read on a canonical authority. -/
theorem canonical_of_behindSlashes (h_file : SchemeKind.of scheme ≠ .file) {u : Url}
    (h : behindSlashes (.of scheme) scheme s = .ok u) :
    ∃ a rest, CanonicalAuthority scheme a ∧ u = onServer (.of scheme) scheme a rest := by
  rw [behindSlashes_eq] at h
  split at h
  · cases h
  · rw [readServer] at h
    dsimp only at h
    generalize behindSlashes.splitPortTail _ _ = split at h
    generalize (userAndHost _).1 = user at h
    cases h_found : hostAndPort (.of scheme) scheme split.1 with
    | error e => rw [h_found] at h; cases h
    | ok found =>
      obtain ⟨host, number⟩ := found
      rw [h_found] at h
      dsimp only [Except.bind] at h
      split at h
      · cases h
      · rename_i h_user
        refine ⟨_, split.2, canonical_hostAndPort h_file h_found (canonicalUser_userinfo user)
          fun h_empty => ?_, (Except.ok.inj h).symm⟩
        rw [h_empty] at h_user
        simpa using h_user

-- ============================================================================
-- Authorities that are read again
-- ============================================================================

/-- The text of a port, with its colon. -/
def portText (number : Option Nat) : List Char :=
  match number with
  | some n => ':' :: Nat.toDigits 10 n
  | none => []

theorem toList_authority (a : Authority) :
    a.render.toList = a.userinfo.toList ++ (a.host.toList ++ portText a.port) := by
  rw [Authority.render, String.toList_append, String.toList_append, List.append_assoc]
  cases a.port with
  | none => rfl
  | some n =>
    rw [portText]
    dsimp only
    rw [String.toList_append]
    exact congrArg (fun digits => a.userinfo.toList ++ (a.host.toList ++ ':' :: digits))
      Nat.toList_repr

theorem mem_portText {number : Option Nat} {c : Char} (h : c ∈ portText number) :
    c ∈ ":0123456789".toList := by
  cases number with
  | none => cases h
  | some n =>
    rcases List.mem_cons.mp h with rfl | h
    · decide
    · obtain ⟨d, h_d, rfl⟩ := Text.exists_of_mem_toDigits (by decide) h
      have h_all : ∀ d < 10, d.digitChar ∈ ":0123456789".toList := by decide
      exact h_all d h_d

theorem head?_portText (number : Option Nat) : ∀ c ∈ (portText number).head?, c = ':' := by
  cases number with
  | none => exact fun c h_c => nomatch h_c
  | some n => exact fun c h_c => (Option.some.inj h_c).symm

theorem withPort_portText (h : CanonicalAuthority scheme a) :
    withPort scheme a.host (portText a.port) = .ok (a.host, a.port) := by
  cases h_port : a.port with
  | none => rfl
  | some n =>
    obtain ⟨h_le, h_default⟩ := h.port n h_port
    have h_named : a.host.isEmpty = false := by
      rw [Bool.eq_false_iff]
      intro h_empty
      have h_none := (h.named (String.isEmpty_iff.mp h_empty)).2.1
      rw [h_port] at h_none
      cases h_none
    have h_digits : (Nat.toDigits 10 n).isEmpty = false := by
      rw [Bool.eq_false_iff]
      exact fun h_nil => Nat.toDigits_ne_nil (List.isEmpty_iff.mp h_nil)
    have h_read : port scheme (Nat.toDigits 10 n) = .ok (some n) := by
      rw [port, h_digits, if_neg Bool.false_ne_true,
        Text.digitsNat?_toDigits (by decide) Text.readsDigits_ten]
      dsimp only
      rw [if_neg (by omega), if_neg h_default]
    rw [portText, withPort, h_named, if_neg Bool.false_ne_true, h_read]
    rfl

/-- The text of a host with its port is read as them. -/
theorem hostAndPort_render (h : CanonicalAuthority scheme a) :
    hostAndPort (.of scheme) scheme (a.host.toList ++ portText a.port)
      = .ok (a.host, a.port) := by
  have h_length := h.host.length _ (head?_portText a.port)
  have h_guard : (SchemeKind.of scheme == .special && a.host.toList.isEmpty) = false := by
    rw [Bool.eq_false_iff]
    intro h_both
    rw [Bool.and_eq_true, List.isEmpty_iff, beq_iff_eq] at h_both
    have h_other := (h.named (String.toList_eq_nil_iff.mp h_both.2)).2.2
    rw [h_other] at h_both
    cases h_both.1
  rw [hostAndPort_eq, h_length, List.take_left' rfl, List.drop_left' rfl, h_guard,
    if_neg Bool.false_ne_true, h.host.reads]
  exact withPort_portText h

theorem splitUserinfo?_of_not_mem (h : '@' ∉ s) : splitUserinfo? s = none := by
  have h_reverse : '@' ∉ s.reverse := fun h_mem => h (List.mem_reverse.mp h_mem)
  rw [splitUserinfo?, List.dropWhile_eq_nil_iff.mpr (Text.bne_of_not_mem h_reverse)]

theorem splitUserinfo?_append {user host : List Char} (h : '@' ∉ host) :
    splitUserinfo? (user ++ '@' :: host) = some (user, host) := by
  have h_text : (user ++ '@' :: host).reverse = host.reverse ++ '@' :: user.reverse := by
    rw [List.reverse_append, List.reverse_cons, List.append_assoc]
    rfl
  have h_reverse : '@' ∉ host.reverse := fun h_mem => h (List.mem_reverse.mp h_mem)
  rw [splitUserinfo?, h_text, Text.dropWhile_bne_append h_reverse,
    Text.takeWhile_bne_append h_reverse]
  dsimp only
  rw [List.reverse_reverse, List.reverse_reverse]

/-- A port without a backslash is not cut. -/
theorem splitPortTail_of_not_mem {host port rest : List Char} (h : '\\' ∉ port)
    (h_length : hostLength false (host ++ port) = host.length) :
    behindSlashes.splitPortTail (host ++ port) rest = (host ++ port, rest) := by
  have h_all : port.takeWhile (· != '\\') = port := by
    rw [List.takeWhile_eq_self_iff]
    exact Text.bne_of_not_mem h
  rw [behindSlashes.splitPortTail, h_length, List.take_left' rfl, List.drop_left' rfl, h_all]
  rw [List.drop_length, List.nil_append]

/-- No character of an authority ends it. -/
theorem clean_of_mem_render (h : CanonicalAuthority scheme a) {c : Char}
    (h_mem : c ∈ a.render.toList) : 0x20 < c.toNat ∧ c ∉ "/\\?#".toList := by
  rw [toList_authority] at h_mem
  rcases List.mem_append.mp h_mem with h_mem | h_mem
  · have h_user := h.user
    generalize a.userinfo = text at h_user h_mem
    cases h_user with
    | none => cases h_mem
    | some h_ne h_fixed h_clean =>
      rw [String.toList_ofList] at h_mem
      rcases List.mem_append.mp h_mem with h_mem | h_mem
      · obtain ⟨h_visible, h_not⟩ := h_clean c h_mem
        exact ⟨h_visible, Host.not_mem_ends h_not⟩
      · obtain rfl := List.mem_singleton.mp h_mem
        decide
  · rcases List.mem_append.mp h_mem with h_mem | h_mem
    · obtain ⟨h_visible, h_clean⟩ := h.host.clean c h_mem
      exact ⟨h_visible, Host.not_mem_ends h_clean⟩
    · have h_all : ∀ c ∈ ":0123456789".toList, 0x20 < c.toNat ∧ c ∉ "/\\?#".toList :=
        Text.forall_mem_of_all (by decide)
      exact h_all c (mem_portText h_mem)

theorem at_not_mem_hostText (h : CanonicalAuthority scheme a) :
    '@' ∉ a.host.toList ++ portText a.port := by
  intro h_mem
  rcases List.mem_append.mp h_mem with h_mem | h_mem
  · exact (h.host.clean _ h_mem).2 (by decide)
  · exact absurd (mem_portText h_mem) (by decide)

/-- The text of an authority is split behind its user. -/
theorem userAndHost_render (h : CanonicalAuthority scheme a) :
    ∃ user, userAndHost a.render.toList = (user, a.host.toList ++ portText a.port)
      ∧ userinfo user = a.userinfo ∧ (user = [] → splitUserinfo? a.render.toList = none) := by
  have h_host := at_not_mem_hostText h
  have h_user := h.user
  rw [toList_authority]
  generalize a.host.toList ++ portText a.port = hostText at h_host
  generalize a.userinfo = text at h_user
  cases h_user with
  | none =>
    have h_split : splitUserinfo? ("".toList ++ hostText) = none := splitUserinfo?_of_not_mem h_host
    refine ⟨[], ?_, rfl, fun _ => h_split⟩
    rw [userAndHost, h_split]
    rfl
  | @some user h_ne h_fixed h_clean =>
    refine ⟨user, ?_, h_fixed, fun h_nil => absurd h_nil h_ne⟩
    rw [String.toList_ofList, List.append_assoc, List.singleton_append, userAndHost,
      splitUserinfo?_append h_host]
    rfl

/-- The text of a canonical authority is read as it. -/
theorem behindSlashes_render (h : CanonicalAuthority scheme a) {tail : List Char}
    (h_tail : ∀ c ∈ tail.head?, c ∈ "/?#".toList) :
    behindSlashes (.of scheme) scheme (a.render.toList ++ tail)
      = .ok (onServer (.of scheme) scheme a tail) := by
  have h_run : ∀ c ∈ a.render.toList, inServer (.of scheme) c = true := fun c h_mem =>
    inServer_of_not_mem (clean_of_mem_render h h_mem).2
  have h_stop : ∀ c ∈ tail.head?, inServer (.of scheme) c = false := fun c h_c =>
    inServer_of_mem (h_tail c h_c)
  obtain ⟨user, h_split, h_user, h_none⟩ := userAndHost_render h
  have h_guard : (user.isEmpty && (splitUserinfo? a.render.toList).isSome
      && (a.host.toList ++ portText a.port).isEmpty && !tail.isEmpty) = false := by
    cases user with
    | nil =>
      rw [h_none rfl]
      rfl
    | cons c rest => rfl
  have h_whole : behindSlashes.splitPortTail (a.host.toList ++ portText a.port) tail
      = (a.host.toList ++ portText a.port, tail) :=
    splitPortTail_of_not_mem (fun h_mem => absurd (mem_portText h_mem) (by decide))
      (h.host.length _ (head?_portText a.port))
  have h_named : (a.host.isEmpty && !a.userinfo.isEmpty) = false := by
    rw [Bool.eq_false_iff]
    intro h_both
    rw [Bool.and_eq_true, String.isEmpty_iff] at h_both
    obtain ⟨h_empty, h_user⟩ := h_both
    rw [(h.named h_empty).1] at h_user
    exact absurd h_user (by decide)
  rw [behindSlashes_eq, Text.takeWhile_append_of_stop h_run h_stop,
    Text.dropWhile_append_of_stop h_run h_stop, h_split]
  dsimp only
  rw [h_guard, if_neg Bool.false_ne_true, readServer, h_split]
  dsimp only
  rw [h_whole, hostAndPort_render h]
  dsimp only [Except.bind]
  rw [h_user, h_named, if_neg Bool.false_ne_true]

end Url
end PageObjects
