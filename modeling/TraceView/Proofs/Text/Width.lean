import TraceView.Text.Utf8
import TraceView.Text.Width

namespace TraceView

namespace Text

theorem charWidth_le (c : Char) : charWidth c ≤ 3 := by
  unfold charWidth
  grind

theorem Follower.bind?_le {f next : Follower} {c : Char} {n : Int}
    (h : f.bind? c = some (n, next)) : n ≤ 2 := by
  unfold bind? at h
  grind

theorem widthBefore_le (c : Char) (f : Follower) : (widthBefore c f).1 ≤ 3 := by
  unfold widthBefore
  cases h : f.bind? c with
  | none => exact Int.ofNat_le.mpr (charWidth_le c)
  | some next => exact Int.le_trans (Follower.bind?_le h) (by decide)

theorem clusterWidth_le (cluster : List Char) : clusterWidth cluster ≤ 3 * cluster.length := by
  unfold clusterWidth
  rw [Int.toNat_le]
  induction cluster with
  | nil => exact Int.le_refl _
  | cons c cs ih =>
    rw [List.foldr_cons, List.length_cons]
    exact Int.le_trans (Int.add_le_add ih (widthBefore_le c _)) (by omega)

theorem width_le (s : String) : width s ≤ 3 * s.length := by
  have hclusters (css : List (List Char)) :
      css.foldr (fun c n => clusterWidth c + n) 0 ≤ 3 * css.flatten.length := by
    induction css with
    | nil => exact Nat.le_refl _
    | cons c css ih =>
      have hfirst := clusterWidth_le c
      rw [List.foldr_cons, List.flatten_cons, List.length_append]
      omega
  rw [width, ← String.length_toList]
  have hall := hclusters (clusters s.toList)
  rwa [flatten_clusters] at hall

end Text

namespace Utf8

theorem length_decodeAfter_le (k : Nat) (bs : Bytes) : (decodeAfter k bs).length ≤ bs.length := by
  induction bs generalizing k with
  | nil => cases k <;> exact Nat.le_refl _
  | cons b bs ih =>
    cases k with
    | zero => exact Nat.succ_le_succ (ih _)
    | succ k => exact Nat.le_succ_of_le (ih k)

theorem length_decodeLossy_le (bs : Bytes) : (decodeLossy bs).length ≤ bs.length := by
  rw [decodeLossy_eq, String.length_ofList]
  exact length_decodeAfter_le 0 bs

theorem length_encode_le (s : String) : (encode s).length ≤ 4 * s.length := by
  rw [encode, ← String.length_toList]
  induction s.toList with
  | nil => exact Nat.le_refl _
  | cons c cs ih =>
    have hfirst := c.utf8Size_le_four
    rw [List.flatMap_cons, List.length_append, String.length_utf8EncodeChar, List.length_cons]
    omega

end Utf8

end TraceView
