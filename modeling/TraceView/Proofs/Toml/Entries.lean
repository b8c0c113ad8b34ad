import TraceView.Toml.Value
import Mathlib.Data.String.Basic

namespace TraceView.Toml.Entries

variable {α : Type} {key k : String}

theorem insert_cons_self (key : String) (a b : α) (es : Entries α) :
    insert key a ((key, b) :: es) = (key, a) :: es := by
  rw [insert, if_pos rfl]

theorem insert_cons_of_lt (h : key < k) (a b : α) (es : Entries α) :
    insert key a ((k, b) :: es) = (key, a) :: (k, b) :: es := by
  rw [insert, if_neg (ne_of_lt h), if_pos h]

theorem insert_cons_of_gt (h : k < key) (a b : α) (es : Entries α) :
    insert key a ((k, b) :: es) = (k, b) :: insert key a es := by
  rw [insert, if_neg (ne_of_gt h), if_neg (lt_asymm h)]

theorem insert_insert (key : String) (a b : α) (es : Entries α) :
    insert key b (insert key a es) = insert key b es := by
  induction es with
  | nil => exact insert_cons_self key b a []
  | cons e es ih =>
    obtain ⟨k, c⟩ := e
    rcases lt_trichotomy key k with h | rfl | h
    · rw [insert_cons_of_lt h, insert_cons_self, insert_cons_of_lt h]
    · rw [insert_cons_self, insert_cons_self, insert_cons_self]
    · rw [insert_cons_of_gt h, insert_cons_of_gt h, insert_cons_of_gt h, ih]

theorem insert_comm_of_lt {other : String} (h : key < other) (a b : α) (es : Entries α) :
    insert key a (insert other b es) = insert other b (insert key a es) := by
  induction es with
  | nil => exact (insert_cons_of_lt h a b []).trans (insert_cons_of_gt h b a []).symm
  | cons e es ih =>
    obtain ⟨k, c⟩ := e
    rcases lt_trichotomy key k with hk | rfl | hk
    · -- The key goes to the front, whatever becomes of the other one.
      rw [insert_cons_of_lt hk, insert_cons_of_gt h]
      rcases lt_trichotomy other k with ho | rfl | ho
      · rw [insert_cons_of_lt ho, insert_cons_of_lt h]
      · rw [insert_cons_self, insert_cons_of_lt h]
      · rw [insert_cons_of_gt ho, insert_cons_of_lt hk]
    · rw [insert_cons_of_gt h, insert_cons_self, insert_cons_self, insert_cons_of_gt h]
    · have ho := lt_trans hk h
      rw [insert_cons_of_gt ho, insert_cons_of_gt hk, insert_cons_of_gt hk, insert_cons_of_gt ho, ih]

theorem insert_comm {other : String} (h : key ≠ other) (a b : α) (es : Entries α) :
    insert key a (insert other b es) = insert other b (insert key a es) := by
  rcases lt_or_gt_of_ne h with h | h
  · exact insert_comm_of_lt h a b es
  · exact (insert_comm_of_lt h b a es).symm

end TraceView.Toml.Entries
