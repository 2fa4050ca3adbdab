import Enclavia.Bytes.BigEndian

/-! Frames with their length in front, and a reader that takes them from a byte stream piece by piece. -/

namespace bytes

def frame (content : List UInt8) : List UInt8 := be 4 content.length ++ content

def frames (contents : List (List UInt8)) : List UInt8 := contents.flatMap frame

inductive FrameReader where
  | length (got : List UInt8)
  | content (len : Nat) (got : List UInt8)

namespace FrameReader

def start : FrameReader := .length []

def consumed : FrameReader → List UInt8
  | .length got => got
  | .content len got => be 4 len ++ got

def Waits (max : Nat) : FrameReader → Prop
  | .length got => got.length < 4
  | .content len got => got.length < len ∧ len ≤ max

inductive Poll where
  | pending (reader : FrameReader)
  | ready (content : List UInt8)
  | too_large (len : Nat)

def poll_content (len : Nat) (got available : List UInt8) : Poll × List UInt8 :=
  let missing := len - got.length
  let got := got ++ available.take missing
  if got.length < len then (.pending (.content len got), available.drop missing)
  else (.ready got, available.drop missing)

def poll (max : Nat) (reader : FrameReader) (available : List UInt8) : Poll × List UInt8 :=
  match reader with
  | .length got =>
    let missing := 4 - got.length
    let got := got ++ available.take missing
    let available := available.drop missing
    if got.length < 4 then (.pending (.length got), available)
    else
      let len := of_be got
      if len > max then (.too_large len, available) else poll_content len [] available
  | .content len got => poll_content len got available

end FrameReader

open FrameReader

variable {max len : Nat} {got available later rest content : List UInt8} {contents : List (List UInt8)}
  {reader : FrameReader}

inductive Polled (max : Nat) (contents : List (List UInt8)) (taken later : List UInt8) : Poll × List UInt8 → Prop
  | pending (reader : FrameReader) (hwaits : reader.Waits max) (hconsumed : reader.consumed = taken) :
      Polled max contents taken later (.pending reader, [])
  | ready (first : List UInt8) (others : List (List UInt8)) (left : List UInt8) (hcontents : contents = first :: others)
      (hleft : left ++ later = frames others) : Polled max contents taken later (.ready first, left)

theorem take_of_short {missing : Nat} (h : (got ++ available.take missing).length < got.length + missing) :
    available.take missing = available ∧ available.drop missing = [] := by
  have hle : available.length ≤ missing := by
    simp only [List.length_append, List.length_take] at h
    omega
  exact ⟨List.take_of_length_le hle, List.drop_eq_nil_of_le hle⟩

theorem poll_content_polled (hmax : content.length ≤ max) (hgot : got.length ≤ content.length)
    (hstream : got ++ (available ++ later) = content ++ frames contents) :
    Polled max (content :: contents) (be 4 content.length ++ (got ++ available)) later
      (poll_content content.length got available) := by
  unfold poll_content
  dsimp only
  split
  · next hshort =>
    obtain ⟨htake, hdrop⟩ := take_of_short (by omega : (got ++ available.take (content.length - got.length)).length <
      got.length + (content.length - got.length))
    rw [htake] at hshort ⊢
    rw [hdrop]
    exact .pending _ ⟨hshort, hmax⟩ rfl
  · next hlong =>
    have hsplit : (got ++ available.take (content.length - got.length)) ++
        (available.drop (content.length - got.length) ++ later) = content ++ frames contents := by
      rw [← hstream]
      simp only [List.append_assoc]
      rw [← List.append_assoc (available.take _), List.take_append_drop]
    have hlength : (got ++ available.take (content.length - got.length)).length = content.length := by
      simp only [List.length_append, List.length_take] at hlong ⊢
      omega
    obtain ⟨hcontent, hleft⟩ := List.append_inj hsplit hlength
    rw [hcontent]
    exact .ready content contents _ rfl hleft

theorem be_inj {m n width : Nat} (hm : m < 256 ^ width) (hn : n < 256 ^ width) (h : be width m = be width n) :
    m = n := by
  rw [← of_be_be hm, h, of_be_be hn]

theorem exists_first (hlen : got.length = 4) (hstream : got ++ rest = frames contents) :
    ∃ first others, contents = first :: others ∧ got = be 4 first.length ∧ rest = first ++ frames others := by
  cases contents with
  | nil =>
    have hnil := (List.append_eq_nil_iff.mp hstream).1
    rw [hnil] at hlen
    cases hlen
  | cons first others =>
    rw [frames, List.flatMap_cons, frame, List.append_assoc] at hstream
    obtain ⟨hgot, hrest⟩ := List.append_inj hstream (hlen.trans (length_be ..).symm)
    exact ⟨first, others, rfl, hgot, hrest⟩

theorem poll_polled (hmax : max < 256 ^ 4) (hfits : ∀ content ∈ contents, content.length ≤ max)
    (hwaits : reader.Waits max)
    (hstream : reader.consumed ++ (available ++ later) = frames contents) :
    Polled max contents (reader.consumed ++ available) later (reader.poll max available) := by
  cases reader with
  | length got =>
    have hgot : got.length < 4 := hwaits
    unfold FrameReader.poll
    dsimp only
    split
    · next hshort =>
      obtain ⟨htake, hdrop⟩ := take_of_short (by omega : (got ++ available.take (4 - got.length)).length <
        got.length + (4 - got.length))
      rw [htake] at hshort ⊢
      rw [hdrop]
      exact .pending _ hshort rfl
    · next hlong =>
      have hlength : (got ++ available.take (4 - got.length)).length = 4 := by
        simp only [List.length_append, List.length_take] at hlong ⊢
        omega
      have hsplit : (got ++ available.take (4 - got.length)) ++ (available.drop (4 - got.length) ++ later) =
          frames contents := by
        rw [← hstream, consumed]
        simp only [List.append_assoc]
        rw [← List.append_assoc (available.take _), List.take_append_drop]
      obtain ⟨first, others, rfl, hfirst, hrest⟩ := exists_first hlength hsplit
      have hle := hfits first List.mem_cons_self
      have hpolled : Polled max (first :: others) (be 4 first.length ++ ([] ++ available.drop (4 - got.length))) later
        (poll_content first.length [] (available.drop (4 - got.length))) :=
        poll_content_polled hle (Nat.zero_le _) hrest
      have htaken : be 4 first.length ++ ([] ++ available.drop (4 - got.length)) = got ++ available := by
        rw [← hfirst, List.nil_append, List.append_assoc, List.take_append_drop]
      rw [htaken] at hpolled
      rw [hfirst, of_be_be (Nat.lt_of_le_of_lt hle hmax), if_neg (Nat.not_lt.mpr hle)]
      exact hpolled
  | content len got =>
    obtain ⟨hgot, hlen⟩ : got.length < len ∧ len ≤ max := hwaits
    rw [consumed, List.append_assoc] at hstream
    obtain ⟨first, others, rfl, hfirst, hrest⟩ := exists_first (length_be ..) hstream
    have hle := hfits first List.mem_cons_self
    obtain rfl := be_inj (Nat.lt_of_le_of_lt hlen hmax) (Nat.lt_of_le_of_lt hle hmax) hfirst
    rw [consumed, List.append_assoc]
    exact poll_content_polled hle (Nat.le_of_lt hgot) hrest

theorem eq_nil_of_consumed (hmax : max < 256 ^ 4) (hfits : ∀ content ∈ contents, content.length ≤ max)
    (hwaits : reader.Waits max) (h : reader.consumed = frames contents) : contents = [] := by
  by_contra hne
  obtain ⟨first, others, rfl⟩ := List.exists_cons_of_ne_nil hne
  cases reader with
  | length got =>
    have hgot : got.length < 4 := hwaits
    have hlength := congrArg List.length h
    simp only [consumed, frames, List.flatMap_cons, frame, List.length_append, length_be] at hlength
    omega
  | content len got =>
    obtain ⟨hgot, hlen⟩ : got.length < len ∧ len ≤ max := hwaits
    obtain ⟨first', others', heq, hfirst, hrest⟩ := exists_first (length_be ..) h
    cases heq
    obtain rfl := be_inj (Nat.lt_of_le_of_lt hlen hmax)
      (Nat.lt_of_le_of_lt (hfits first List.mem_cons_self) hmax) hfirst
    rw [hrest, List.length_append] at hgot
    omega

end bytes
