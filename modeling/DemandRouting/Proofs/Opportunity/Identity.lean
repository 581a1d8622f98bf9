import DemandRouting.Opportunity.Identity
import Mathlib.Data.List.Basic

namespace DemandRouting.Identity

open Text OpenRtb

-- Where they stand: at their present place if there are any, else at the old one.
def placedEids (user : User) : List Eid :=
  match user.eids, user.ext with
  | [], some ext => ext.eids
  | eids, _ => eids

-- More of them at the place where they stand.
def withEids (user : User) (more : List Eid) : User :=
  match user.eids, user.ext with
  | [], some ext => { user with ext := some { ext with eids := ext.eids ++ more } }
  | eids, _ => { user with eids := eids ++ more }

theorem eidsOf_eq (user : User) : eidsOf user = placedEids user := by
  unfold eidsOf placedEids
  cases user.eids with
  | nil => cases user.ext <;> rfl
  | cons eid eids => rfl

theorem placedEids_withEids {user : User} (h : placedEids user ≠ []) (more : List Eid) :
    placedEids (withEids user more) = placedEids user ++ more := by
  obtain ⟨id, buyeruid, consent, geo, eids, ext⟩ := user
  cases eids with
  | nil =>
    cases ext with
    | none => exact absurd rfl h
    | some ext => rfl
  | cons eid eids => rfl

theorem withEids_raw (user : User) (more : List Eid) :
    (withEids user more).id = user.id ∧ (withEids user more).buyeruid = user.buyeruid := by
  unfold withEids
  split <;> exact ⟨rfl, rfl⟩

def types : List String := sources.map (·.2)

-- The extended id is of a source that issues ids of the type.
def Issues (eid : Eid) (type : String) : Prop := (lowerAscii (trim eid.source), type) ∈ sources

-- The id is the first uid that is not empty.
def FirstUid (uids : List Uid) (id : String) : Prop :=
  id ≠ "" ∧ ∃ before after, uids = before ++ ⟨id⟩ :: after ∧ ∀ uid ∈ before, uid.id = ""

-- The id is the first uid of the first extended id of the type that has one.
def FirstUsable (eids : List Eid) (type id : String) : Prop :=
  ∃ before eid after, eids = before ++ eid :: after ∧ Issues eid type ∧ FirstUid eid.uids id ∧
    ∀ earlier ∈ before, Issues earlier type → ∀ uid ∈ earlier.uids, uid.id = ""

-- Every source issues ids of one type.
theorem lookup_sources {source type : String} :
    sources.lookup source = some type ↔ (source, type) ∈ sources := by
  constructor
  · intro h
    obtain ⟨_, _, heq, -⟩ := List.lookup_eq_some_iff.mp h
    rw [heq]
    simp
  · intro h
    have hall : ∀ entry ∈ sources, sources.lookup entry.1 = some entry.2 := by decide
    exact hall _ h

theorem typeOf?_eq_some_iff {eid : Eid} {type : String} :
    typeOf? eid.source = some type ↔ Issues eid type := lookup_sources

theorem mem_types_of_issues {eid : Eid} {type : String} (h : Issues eid type) : type ∈ types :=
  List.mem_map.mpr ⟨_, h, rfl⟩

theorem usable?_eq_some_iff {eid : Eid} {id : String} :
    usable? eid = some id ↔ FirstUid eid.uids id := by
  rw [usable?, Option.map_eq_some_iff, FirstUid]
  constructor
  · rintro ⟨uid, hfind, rfl⟩
    obtain ⟨hid, before, after, heq, hbefore⟩ := List.find?_eq_some_iff_append.mp hfind
    exact ⟨by simpa using hid, before, after, heq, by simpa using hbefore⟩
  · rintro ⟨hid, before, after, heq, hbefore⟩
    refine ⟨⟨id⟩, List.find?_eq_some_iff_append.mpr ?_, rfl⟩
    exact ⟨by simpa using hid, before, after, heq, by simpa using hbefore⟩

theorem usable?_eq_none_iff {eid : Eid} :
    usable? eid = none ↔ ∀ uid ∈ eid.uids, uid.id = "" := by
  simp [usable?]

-- What an extended id has to give for a type.
def given? (type : String) (eid : Eid) : Option String :=
  if typeOf? eid.source = some type then usable? eid else none

theorem given?_eq_some_iff {type : String} {eid : Eid} {id : String} :
    given? type eid = some id ↔ Issues eid type ∧ FirstUid eid.uids id := by
  rw [← typeOf?_eq_some_iff, ← usable?_eq_some_iff, given?]
  split <;> simp_all

theorem given?_eq_none_iff {type : String} {eid : Eid} :
    given? type eid = none ↔ (Issues eid type → ∀ uid ∈ eid.uids, uid.id = "") := by
  rw [← typeOf?_eq_some_iff, ← usable?_eq_none_iff, given?]
  split <;> simp_all

theorem findSome?_given? {eids : List Eid} {type id : String} :
    eids.findSome? (given? type) = some id ↔ FirstUsable eids type id := by
  simp only [List.findSome?_eq_some_iff, given?_eq_some_iff, given?_eq_none_iff, FirstUsable,
    and_assoc]

theorem findSome?_given?_isSome {eids : List Eid} {type : String} :
    (eids.findSome? (given? type)).isSome = true ↔
      ∃ eid ∈ eids, Issues eid type ∧ ∃ uid ∈ eid.uids, uid.id ≠ "" := by
  rw [List.findSome?_isSome_iff]
  refine exists_congr fun eid => and_congr_right fun _ => ?_
  rw [Option.isSome_iff_ne_none, Ne, given?_eq_none_iff]
  simp

-- An extended id adds to its own type only, and only what is missing.
theorem get?_addEid (ids : Table String) (eid : Eid) (key : String) :
    (addEid ids eid).get? key = (ids.get? key).or (given? key eid) := by
  unfold addEid given?
  split
  · rename_i type id htype hid
    rw [Table.get?_insertNew, htype, hid, ite_cond_congr (propext Option.some_inj)]
  · rename_i hnone
    split
    · rename_i htype
      cases hid : usable? eid with
      | none => simp
      | some id => exact absurd hid (hnone key id htype)
    · simp

theorem get?_foldl_addEid (eids : List Eid) (ids : Table String) (key : String) :
    (eids.foldl addEid ids).get? key = (ids.get? key).or (eids.findSome? (given? key)) := by
  induction eids generalizing ids with
  | nil => simp
  | cons eid eids ih =>
    rw [List.foldl_cons, ih, get?_addEid, Option.or_assoc, List.findSome?_cons]
    cases given? key eid <;> rfl

theorem get?_addRaw (ids : Table String) (type : String) (id : Option String) (key : String) :
    (addRaw ids type id).get? key =
      (ids.get? key).or (if type = key then id.filter (· ≠ "") else none) := by
  unfold addRaw
  split
  · rename_i id
    by_cases hid : id = "" <;> simp [hid, Option.filter]
  · simp

theorem get?_ofUser (user : User) (key : String) :
    (ofUser user).get? key =
      ((((placedEids user).findSome? (given? key)).or
        (if "user_id" = key then user.id.filter (· ≠ "") else none)).or
        (if "buyer_uid" = key then user.buyeruid.filter (· ≠ "") else none)) := by
  rw [ofUser, get?_addRaw, get?_addRaw, get?_foldl_addEid, eidsOf_eq]
  simp

-- No source issues an id under the name of a raw one.
theorem findSome?_given?_of_notMem {key : String} (h : key ∉ types) (eids : List Eid) :
    eids.findSome? (given? key) = none := by
  rw [List.findSome?_eq_none_iff]
  intro eid _
  rw [given?_eq_none_iff]
  exact fun hissues => absurd (mem_types_of_issues hissues) h

theorem get?_of_mem_types {type : String} (h : type ∈ types) (user : User) :
    (ofUser user).get? type = (placedEids user).findSome? (given? type) := by
  have huser : "user_id" ≠ type := fun heq => absurd (heq ▸ h) (by decide)
  have hbuyer : "buyer_uid" ≠ type := fun heq => absurd (heq ▸ h) (by decide)
  rw [get?_ofUser, if_neg huser, if_neg hbuyer, Option.or_none, Option.or_none]

theorem get?_of_notMem_types {key : String} (h : key ∉ types) (user : User) :
    (ofUser user).get? key = (if "user_id" = key then user.id.filter (· ≠ "") else none).or
      (if "buyer_uid" = key then user.buyeruid.filter (· ≠ "") else none) := by
  rw [get?_ofUser, findSome?_given?_of_notMem h, Option.none_or]

theorem filter_ne_empty_eq_some_iff {raw : Option String} {id : String} :
    raw.filter (· ≠ "") = some id ↔ raw = some id ∧ id ≠ "" := by
  rw [Option.filter_eq_some_iff, decide_eq_true_eq]

-- Extended ids behind the others only add what is missing.
theorem get?_withEids {user : User} (h : placedEids user ≠ []) (more : List Eid)
    {key id : String} (hget : (ofUser user).get? key = some id) :
    (ofUser (withEids user more)).get? key = some id := by
  by_cases hkey : key ∈ types
  · rw [get?_of_mem_types hkey] at hget ⊢
    rw [placedEids_withEids h, List.findSome?_append, hget, Option.some_or]
  · obtain ⟨hid, hbuyer⟩ := withEids_raw user more
    rw [get?_of_notMem_types hkey] at hget ⊢
    rwa [hid, hbuyer]

-- The table holds an id of a type exactly where some extended id of the type has one, and then the
-- first of all. Beside these there are the raw ids that are not empty.
theorem extract_firstUsable (user : User) :
    (∀ type ∈ types,
      ((extract (some user)).contains type = true ↔
        ∃ eid ∈ placedEids user, Issues eid type ∧ ∃ uid ∈ eid.uids, uid.id ≠ "") ∧
      ∀ id, (extract (some user)).get? type = some id ↔ FirstUsable (placedEids user) type id) ∧
    (∀ id, (extract (some user)).get? "user_id" = some id ↔ user.id = some id ∧ id ≠ "") ∧
    (∀ id, (extract (some user)).get? "buyer_uid" = some id ↔
      user.buyeruid = some id ∧ id ≠ "") ∧
    (∀ key ∈ (extract (some user)).keys, key ∈ types ∨ key = "user_id" ∨ key = "buyer_uid") ∧
    ∀ more key id, placedEids user ≠ [] → (extract (some user)).get? key = some id →
      (extract (some (withEids user more))).get? key = some id := by
  have hextract : ∀ user, extract (some user) = ofUser user := fun _ => rfl
  simp only [hextract]
  refine ⟨fun type htype => ⟨?_, fun id => ?_⟩, fun id => ?_, fun id => ?_, fun key hkey => ?_, ?_⟩
  · rw [Table.contains_eq, get?_of_mem_types htype, findSome?_given?_isSome]
  · rw [get?_of_mem_types htype, findSome?_given?]
  · rw [get?_of_notMem_types (by decide), if_pos rfl, if_neg (by decide), Option.or_none,
      filter_ne_empty_eq_some_iff]
  · rw [get?_of_notMem_types (by decide), if_neg (by decide), if_pos rfl, Option.none_or,
      filter_ne_empty_eq_some_iff]
  · rw [Table.mem_keys_iff, Table.contains_eq] at hkey
    by_contra hother
    obtain ⟨htype, huser, hbuyer⟩ : key ∉ types ∧ key ≠ "user_id" ∧ key ≠ "buyer_uid" := by
      simpa only [not_or] using hother
    rw [get?_of_notMem_types htype, if_neg (Ne.symm huser), if_neg (Ne.symm hbuyer)] at hkey
    cases hkey
  · intro more key id hplaced hget
    exact get?_withEids hplaced more hget

-- An unknown source, a known one with nothing to give, and two more of that type.
def mixedUser : User :=
  { id := some "visitor"
    buyeruid := some ""
    eids := [⟨"example.org", [⟨"stray"⟩]⟩, ⟨" UIDAPI.com", [⟨""⟩]⟩,
      ⟨"uidapi.com", [⟨""⟩, ⟨"first"⟩, ⟨"second"⟩]⟩, ⟨"uidapi.com", [⟨"third"⟩]⟩]
    ext := some { eids := [⟨"netid.de", [⟨"old"⟩]⟩] } }

theorem extract_firstUsable_mixedUser :
    FirstUsable (placedEids mixedUser) "uid2" "first" ∧
      (extract (some mixedUser)).get? "user_id" = some "visitor" ∧
      (∀ id, (extract (some mixedUser)).get? "buyer_uid" ≠ some id) ∧
      (extract (some (withEids mixedUser [⟨"netid.de", [⟨"late"⟩]⟩]))).get? "uid2" =
        some "first" := by
  obtain ⟨htypes, huser, hbuyer, -, hmore⟩ := extract_firstUsable mixedUser
  have hget : (extract (some mixedUser)).get? "uid2" = some "first" := by decide +kernel
  refine ⟨((htypes "uid2" (by decide)).2 "first").mp hget, ?_, ?_, ?_⟩
  · exact (huser "visitor").mpr ⟨rfl, by decide⟩
  · intro id hid
    obtain ⟨hraw, hne⟩ := (hbuyer id).mp hid
    exact hne (Option.some.inj hraw).symm
  · exact hmore _ "uid2" "first" (by decide) hget

end DemandRouting.Identity
