import DemandRouting.Json.Value
import DemandRouting.Number.Power
import DemandRouting.Table

namespace DemandRouting

structure Codec (α : Type) where
  read : Json → Option α
  write : α → Json

namespace Codec

-- Whatever satisfies `p` is read back as it was written.
def Faithful {α : Type} (c : Codec α) (p : α → Prop) : Prop := ∀ a, p a → c.read (c.write a) = some a

-- Everything is read back.
def Total {α : Type} (c : Codec α) : Prop := c.Faithful fun _ => True

-- What is written is never taken for an absent value.
def Present {α : Type} (c : Codec α) (p : α → Prop) : Prop := ∀ a, p a → c.write a ≠ .null

def Shown {α : Type} (c : Codec α) : Prop := c.Present fun _ => True

def text : Codec String where
  read
    | .text s => some s
    | _ => none
  write := .text

def bool : Codec Bool where
  read
    | .bool b => some b
    | _ => none
  write := .bool

-- Whole numbers from `low` up to but not including `high`; a number written with a fraction or an
-- exponent is not whole.
def ranged {α : Type} (low high : Int) (ofInt : Int → α) (toInt : α → Int) : Codec α where
  read
    | .int n => if low ≤ n ∧ n < high then some (ofInt n) else none
    | _ => none
  write a := .int (toInt a)

def word64 : Codec UInt64 := ranged 0 (2 ^ 64) (fun n => .ofNat n.toNat) (fun w => w.toNat)

def word32 : Codec UInt32 := ranged 0 (2 ^ 32) (fun n => .ofNat n.toNat) (fun w => w.toNat)

def signed64 : Codec Int64 := ranged (-2 ^ 63) (2 ^ 63) .ofInt Int64.toInt

-- Natural numbers without a bound.
def natural : Codec Nat where
  read
    | .int n => if 0 ≤ n then some n.toNat else none
    | _ => none
  write n := .ofNat n

-- One of a few values, written by its name.
def named {α : Type} (all : List α) (name : α → String) : Codec α where
  read
    | .text s => all.find? (name · == s)
    | _ => none
  write a := .text (name a)

def doubleOfInt (n : Int) : Float := Number.nearest (decide (n < 0)) ⟨n.natAbs, 0⟩

-- Whole numbers are doubles too.
def double : Codec Float where
  read
    | .float x => some x
    | .int n => some (doubleOfInt n)
    | _ => none
  write := Json.ofFloat

-- An absent value is `null`.
def option {α : Type} (c : Codec α) : Codec (Option α) where
  read
    | .null => some none
    | j => (c.read j).map some
  write := Json.optional c.write

def list {α : Type} (c : Codec α) : Codec (List α) where
  read
    | .list items => items.mapM c.read
    | _ => none
  write as := .list (as.map c.write)

-- An object of like members; the last of several with one name counts.
def table {α : Type} (c : Codec α) : Codec (Table α) where
  read
    | .object members =>
      (members.mapM fun m => (c.read m.2).map (m.1, ·)).map Table.ofList
    | _ => none
  write t := .object (t.entries.map fun e => (e.1, c.write e.2))

@[simp] theorem text_total : text.Total := fun _ _ => rfl

@[simp] theorem bool_total : bool.Total := fun _ _ => rfl

theorem double_faithful : double.Faithful fun x => x.isFinite = true := fun x h => by
  simp [double, Json.ofFloat, h]

@[simp] theorem word64_total : word64.Total := fun w _ => by
  have := w.toNat_lt
  simp only [word64, ranged]
  rw [if_pos (by omega)]
  simp

@[simp] theorem word32_total : word32.Total := fun w _ => by
  have := w.toNat_lt
  simp only [word32, ranged]
  rw [if_pos (by omega)]
  simp

@[simp] theorem signed64_total : signed64.Total := fun w _ => by
  have hlo := w.le_toInt
  have hhi := w.toInt_lt
  simp only [signed64, ranged]
  rw [if_pos ⟨hlo, hhi⟩]
  simp

-- Whatever each item is written as, reading the items brings them back.
theorem mapM_map_eq_some {α β : Type} {read : β → Option α} {write : α → β} {as : List α}
    (h : ∀ a ∈ as, read (write a) = some a) : (as.map write).mapM read = some as := by
  induction as with
  | nil => rfl
  | cons a as ih =>
    have ha := h a (by simp)
    have has := ih fun b hb => h b (by simp [hb])
    simp only [List.map_cons, List.mapM_cons, ha, has]
    rfl

theorem list_faithful {α : Type} {c : Codec α} {p : α → Prop} (hc : c.Faithful p) :
    (list c).Faithful fun as => ∀ a ∈ as, p a :=
  fun _ h => mapM_map_eq_some fun a ha => hc a (h a ha)

@[simp] theorem list_total {α : Type} {c : Codec α} (hc : c.Total) : (list c).Total :=
  fun as _ => list_faithful hc as fun _ _ => trivial

theorem table_faithful {α : Type} {c : Codec α} {p : α → Prop} (hc : c.Faithful p) :
    (table c).Faithful fun t => ∀ e ∈ t.entries, p e.2 := fun t h => by
  have hentries : (t.entries.map fun e => (e.1, c.write e.2)).mapM
      (fun m => (c.read m.2).map (m.1, ·)) = some t.entries :=
    mapM_map_eq_some fun e he => by rw [hc e.2 (h e he)]; rfl
  simp only [table, hentries, Option.map_some, Table.ofList_entries]

@[simp] theorem table_total {α : Type} {c : Codec α} (hc : c.Total) : (table c).Total :=
  fun t _ => table_faithful hc t fun _ _ => trivial

theorem option_faithful {α : Type} {c : Codec α} {p : α → Prop} (hc : c.Faithful p)
    (hpresent : c.Present p) : (option c).Faithful fun o => ∀ a ∈ o, p a := fun o h => by
  cases o with
  | none => rfl
  | some a =>
    have ha : p a := h a rfl
    simp only [option, Json.optional]
    split
    · rename_i hnull
      exact absurd hnull (hpresent a ha)
    · rw [hc a ha]
      rfl

@[simp] theorem option_total {α : Type} {c : Codec α} (hc : c.Total) (hshown : c.Shown) :
    (option c).Total :=
  fun o _ => option_faithful hc hshown o fun _ _ => trivial

@[simp] theorem text_shown : text.Shown := fun _ _ => nofun

@[simp] theorem word32_shown : word32.Shown := fun _ _ => nofun

@[simp] theorem word64_shown : word64.Shown := fun _ _ => nofun

@[simp] theorem signed64_shown : signed64.Shown := fun _ _ => nofun

theorem double_present : double.Present fun x => x.isFinite = true := fun x h => by
  simp [double, Json.ofFloat, h]

end Codec
end DemandRouting
