import ArangoStarter.Go.Strconv

/-!
# `net.JoinHostPort` and `net.SplitHostPort`

A local slave finds its master at `net.JoinHostPort(masterAddr,
strconv.Itoa(s.announcePort))`.  The slave's own start-up code takes that
address apart again with `net.SplitHostPort`.  This module models both
functions of Go 1.8.1 (`net/ipsock.go`) with the helpers `byteIndex` and
`last` that they use, and every error of `SplitHostPort` with its text.

* `splitHostPort_joinHostPort`: for a port without `:`, `[` and `]`, the
  split gives the host and the port back exactly when the host holds no
  bracket.  A host with a colon or a `%` is bracketed by the join and
  unbracketed by the split; a host that already has a bracket comes back as
  an error.
-/

namespace ArangoStarter.Go.Net

/-- `':'`. -/
def colon : UInt8 := 58

/-- `'%'`. -/
def percent : UInt8 := 37

/-- `'['`. -/
def lbrack : UInt8 := 91

/-- `']'`. -/
def rbrack : UInt8 := 93

/-- `byteIndex(s, c)`: the index of the first `c` in `s`; Go's `-1` is `none`. -/
def byteIndex : GoString → UInt8 → Option Nat
  | [], _ => none
  | b :: s, c => if b = c then some 0 else (byteIndex s c).map (· + 1)

/-- `last(s, b)`: the index of the last `b` in `s`; Go's `-1` is `none`. -/
def last : GoString → UInt8 → Option Nat
  | [], _ => none
  | c :: s, b =>
    match last s b with
    | some i => some (i + 1)
    | none => if c = b then some 0 else none

/-- `net.JoinHostPort(host, port)`: a host with a colon or a percent sign is
put in brackets. -/
def joinHostPort (host port : GoString) : GoString :=
  if (byteIndex host colon).isSome || (byteIndex host percent).isSome then
    lbrack :: host ++ rbrack :: colon :: port
  else host ++ colon :: port

/-- `*net.AddrError`: the reason and the address. -/
structure AddrError where
  err : String
  addr : GoString
deriving DecidableEq

/-- `missingPort` of `SplitHostPort`. -/
def missingPort : String := "missing port in address"

/-- `tooManyColons` of `SplitHostPort`. -/
def tooManyColons : String := "too many colons in address"

/-- The checks that both forms of the address share, from `j` and `k` on,
and the port after the last colon `i`. -/
def splitTail (hostport host : GoString) (i j k : Nat) : Except AddrError (GoString × GoString) :=
  if (byteIndex (hostport.drop j) lbrack).isSome then .error ⟨"unexpected '[' in address", hostport⟩
  else if (byteIndex (hostport.drop k) rbrack).isSome then
    .error ⟨"unexpected ']' in address", hostport⟩
  else .ok (host, hostport.drop (i + 1))

/-- `net.SplitHostPort(hostport)` of Go 1.8.1. -/
def splitHostPort (hostport : GoString) : Except AddrError (GoString × GoString) :=
  match last hostport colon with
  | none => .error ⟨missingPort, hostport⟩
  | some i =>
    if hostport.head? = some lbrack then
      match byteIndex hostport rbrack with
      | none => .error ⟨"missing ']' in address", hostport⟩
      | some e =>
        if e + 1 = hostport.length then .error ⟨missingPort, hostport⟩
        else if e + 1 = i then splitTail hostport ((hostport.drop 1).take (e - 1)) i 1 (e + 1)
        else if hostport.get? (e + 1) = some colon then .error ⟨tooManyColons, hostport⟩
        else .error ⟨missingPort, hostport⟩
    else
      let host := hostport.take i
      if (byteIndex host colon).isSome then .error ⟨tooManyColons, hostport⟩
      else if (byteIndex host percent).isSome then .error ⟨"missing brackets in address", hostport⟩
      else splitTail hostport host i 0 0

example : joinHostPort (ascii "127.0.0.1") (ascii "8528") = ascii "127.0.0.1:8528" := by decide
example : joinHostPort (ascii "::1") (ascii "8528") = ascii "[::1]:8528" := by decide
example : splitHostPort (ascii "[::1]:8528") = .ok (ascii "::1", ascii "8528") := rfl

/-! ## Searching a byte -/

theorem byteIndex_eq_none_iff {s : GoString} {c : UInt8} : byteIndex s c = none ↔ c ∉ s := by
  induction s with
  | nil => simp [byteIndex]
  | cons b s ih =>
    rw [byteIndex]
    split
    · subst_vars; simp
    · rename_i h
      rw [Option.map_eq_none', ih]
      simp [Ne.symm h]

theorem isSome_byteIndex {s : GoString} {c : UInt8} : (byteIndex s c).isSome ↔ c ∈ s := by
  rw [← not_iff_not, Option.not_isSome_iff_eq_none, byteIndex_eq_none_iff]

theorem byteIndex_append_of_not_mem {s : GoString} {c : UInt8} (hs : c ∉ s) (t : GoString) :
    byteIndex (s ++ t) c = (byteIndex t c).map (· + s.length) := by
  induction s with
  | nil => simp
  | cons b s ih =>
    have hb : b ≠ c := fun h => hs (h ▸ List.mem_cons_self b s)
    rw [List.cons_append, byteIndex, if_neg hb, ih (fun h => hs (List.mem_cons_of_mem b h))]
    cases byteIndex t c <;> simp [Nat.add_assoc]

theorem last_append_of_not_mem (s : GoString) {c : UInt8} {t : GoString} (ht : c ∉ t) :
    last (s ++ c :: t) c = some s.length := by
  induction s with
  | nil =>
    have : last t c = none := by
      induction t with
      | nil => rfl
      | cons b t ih =>
        have hb : b ≠ c := fun h => ht (h ▸ List.mem_cons_self b t)
        simp [last, ih (fun h => ht (List.mem_cons_of_mem b h)), hb]
    simp [last, this]
  | cons b s ih => simp [last, ih]

/-- The bytes before the first `c` are not `c`. -/
theorem not_mem_take_of_byteIndex {s : GoString} {c : UInt8} {e : Nat} (h : byteIndex s c = some e) :
    c ∉ s.take e := by
  induction s generalizing e with
  | nil => simp [byteIndex] at h
  | cons b s ih =>
    rw [byteIndex] at h
    split at h
    · cases h; simp
    · obtain ⟨e, he, rfl⟩ := Option.map_eq_some'.1 h
      simpa [Ne.symm ‹b ≠ c›] using ih he

/-! ## What a successful split returns -/

theorem splitTail_eq_ok {hostport host : GoString} {i j k : Nat} {r : GoString × GoString} :
    splitTail hostport host i j k = .ok r ↔
      lbrack ∉ hostport.drop j ∧ rbrack ∉ hostport.drop k ∧ r = (host, hostport.drop (i + 1)) := by
  unfold splitTail
  by_cases hj : lbrack ∈ hostport.drop j
  · rw [if_pos (isSome_byteIndex.2 hj)]
    simp [hj]
  rw [if_neg (mt isSome_byteIndex.1 hj)]
  by_cases hk : rbrack ∈ hostport.drop k
  · rw [if_pos (isSome_byteIndex.2 hk)]
    simp [hk]
  rw [if_neg (mt isSome_byteIndex.1 hk)]
  simp [hj, hk, eq_comm]

/-- A host that `SplitHostPort` returns holds no bracket, whatever the address. -/
theorem splitHostPort_ok_not_mem {hostport host port : GoString}
    (h : splitHostPort hostport = .ok (host, port)) : lbrack ∉ host ∧ rbrack ∉ host := by
  unfold splitHostPort at h
  split at h
  · cases h
  rename_i i _
  split at h
  · split at h
    · cases h
    rename_i e he
    split at h
    · cases h
    split at h
    · obtain ⟨hl, -, hr⟩ := splitTail_eq_ok.1 h
      cases hr
      refine ⟨fun hm => hl (List.mem_of_mem_take hm), fun hm => ?_⟩
      rcases Nat.eq_zero_or_pos e with rfl | he0
      · simp at hm
      rw [List.take_drop, show 1 + (e - 1) = e by omega] at hm
      exact not_mem_take_of_byteIndex he (List.mem_of_mem_drop hm)
    split at h <;> cases h
  · dsimp only at h
    split at h
    · cases h
    split at h
    · cases h
    obtain ⟨hl, hr, hh⟩ := splitTail_eq_ok.1 h
    cases hh
    exact ⟨fun hm => hl (List.mem_of_mem_take hm), fun hm => hr (List.mem_of_mem_take hm)⟩

/-! ## Joining and splitting back -/

section RoundTrip

variable {host port : GoString} (hc : colon ∉ port) (hl : lbrack ∉ port) (hr : rbrack ∉ port)
include hc hl hr

theorem splitHostPort_plain (hcolon : colon ∉ host) (hpercent : percent ∉ host)
    (hlh : lbrack ∉ host) (hrh : rbrack ∉ host) :
    splitHostPort (host ++ colon :: port) = .ok (host, port) := by
  have hhead : (host ++ colon :: port).head? ≠ some lbrack := by
    cases host with
    | nil => simp [show colon ≠ lbrack by decide]
    | cons b host => simpa using fun h : b = lbrack => hlh (h ▸ List.mem_cons_self b host)
  have hcl : colon ≠ lbrack := by decide
  have hcr : colon ≠ rbrack := by decide
  rw [splitHostPort, last_append_of_not_mem host hc]
  dsimp only
  rw [if_neg hhead, List.take_left' rfl, if_neg (by simpa [isSome_byteIndex] using hcolon),
    if_neg (by simpa [isSome_byteIndex] using hpercent), splitTail_eq_ok]
  simp [hlh, hrh, hl, hr, hcl.symm, hcr.symm, List.drop_left']

theorem splitHostPort_bracketed (hlh : lbrack ∉ host) (hrh : rbrack ∉ host) :
    splitHostPort (lbrack :: host ++ rbrack :: colon :: port) = .ok (host, port) := by
  have hlast : last (lbrack :: host ++ rbrack :: colon :: port) colon = some (host.length + 2) := by
    simpa using last_append_of_not_mem (lbrack :: host ++ [rbrack]) hc
  have hfirst : byteIndex (lbrack :: host ++ rbrack :: colon :: port) rbrack = some (host.length + 1) := by
    have : rbrack ∉ lbrack :: host := by simpa using ⟨by decide, hrh⟩
    simpa [byteIndex] using byteIndex_append_of_not_mem this (rbrack :: colon :: port)
  rw [splitHostPort, hlast]
  dsimp only
  rw [if_pos (by rfl), hfirst]
  dsimp only
  rw [if_neg (by simp), if_pos rfl, splitTail_eq_ok]
  simp [hlh, hl, hr, List.take_left', List.drop_left']
  decide

/-- `SplitHostPort` undoes `JoinHostPort` exactly when the host holds no
bracket, for a port without a colon or a bracket. -/
theorem splitHostPort_joinHostPort :
    splitHostPort (joinHostPort host port) = .ok (host, port) ↔ lbrack ∉ host ∧ rbrack ∉ host := by
  refine ⟨splitHostPort_ok_not_mem, fun ⟨hlh, hrh⟩ => ?_⟩
  unfold joinHostPort
  split
  · exact splitHostPort_bracketed hc hl hr hlh hrh
  · rename_i h
    simp only [Bool.or_eq_true, not_or, isSome_byteIndex] at h
    exact splitHostPort_plain hc hl hr h.1 h.2 hlh hrh

end RoundTrip

end ArangoStarter.Go.Net
