import DnsView.Net.Addresses
import DnsView.Proofs.Text.Bytes
import Mathlib.Data.List.TakeWhile

/-!
# Addresses read back from their texts

A dotted address is read byte by byte.  The groups of a longer address are read up to a double
colon, which stands for as many zero groups as are missing, so it does not matter which run of zeros
was left out.  Only a mapped address has its last two groups in dotted form.
-/

namespace DnsView

open Text (Stops)

/-!
## Dotted addresses
-/

namespace Ipv4

theorem byte?_decimal (b : UInt8) {rest : List Char} (hrest : Stops 10 rest) :
    byte? (Text.decimal b.toNat ++ rest) = some (b, rest) := by
  have hb : b.toNat < 256 := b.toNat_lt
  rcases Text.exists_digitsOf (by decide : 1 < 10) b.toNat with ⟨ds, hds⟩
  have hspan : Text.spanDigits 10 (Text.decimal b.toNat ++ rest) = (ds, rest) :=
    hds.spanDigits (by decide) hrest
  have hlength : ds.length ≤ 3 := hds.length_le (by decide) (by decide) (by omega)
  have hleading : ¬(ds.head? = some 0 ∧ ds.length ≠ 1) := by
    intro h
    apply h.right
    rw [hds.leading h.left]
    rfl
  have hne := hds.ne_nil
  unfold byte?
  simp only [hspan, hds.value]
  rw [if_neg]
  · simp
  · simp only [Bool.or_eq_true, Bool.and_eq_true, List.isEmpty_iff, decide_eq_true_eq,
      beq_iff_eq, bne_iff_ne]
    rintro (((h | h) | h) | h)
    · exact hne h
    · omega
    · exact hleading h
    · omega

theorem scan?_chars (a : Ipv4) {rest : List Char} (hrest : Stops 10 rest) :
    scan? (a.chars ++ rest) = some (a, rest) := by
  have hpoint (cs : List Char) : Stops 10 ('.' :: cs) := by
    rw [Text.stops_cons]
    decide
  have htext : a.chars ++ rest =
      Text.decimal a.first.toNat ++ '.' :: (Text.decimal a.second.toNat ++
        '.' :: (Text.decimal a.third.toNat ++ '.' :: (Text.decimal a.fourth.toNat ++ rest))) := by
    simp [chars]
  rw [htext, scan?, byte?_decimal _ (hpoint _)]
  simp only [Option.bind_eq_bind, Option.bind_some, pointByte?, byte?_decimal _ (hpoint _),
    byte?_decimal _ hrest]
  rfl

theorem ofString?_text (a : Ipv4) : ofString? a.text = some a := by
  have hscan := scan?_chars a (Text.stops_nil 10)
  rw [List.append_nil] at hscan
  rw [ofString?, text, String.toList_ofList, hscan]

theorem scan?_eq_none {cs : List Char} (h : (Text.spanDigits 10 cs).2.head? ≠ some '.') :
    scan? cs = none := by
  rw [scan?]
  cases hbyte : byte? cs with
  | none =>
      rfl
  | some first =>
      have hrest : first.2 = (Text.spanDigits 10 cs).2 := by
        unfold byte? at hbyte
        dsimp only at hbyte
        split at hbyte
        · cases hbyte
        · cases hbyte
          rfl
      have hpoint : pointByte? first.2 = none := by
        rw [hrest]
        unfold pointByte?
        split
        · rename_i heq
          rw [heq] at h
          exact absurd rfl h
        · rfl
      simp [hpoint]

end Ipv4

/-!
## Groups
-/

namespace Ipv6

theorem group?_hexadecimal (g : UInt16) {rest : List Char} (hrest : Stops 16 rest) :
    group? (Text.hexadecimal g.toNat ++ rest) = some (g, rest) := by
  have hg : g.toNat < 65536 := g.toNat_lt
  rcases Text.exists_digitsOf (by decide : 1 < 16) g.toNat with ⟨ds, hds⟩
  have hspan : Text.spanDigits 16 (Text.hexadecimal g.toNat ++ rest) = (ds, rest) :=
    hds.spanDigits (by decide) hrest
  have hlength : ds.length ≤ 4 := hds.length_le (by decide) (by decide) (by omega)
  have hne := hds.ne_nil
  unfold group?
  simp only [hspan, hds.value]
  rw [if_neg]
  · simp
  · simp only [Bool.or_eq_true, List.isEmpty_iff, decide_eq_true_eq]
    rintro (h | h)
    · exact hne h
    · omega

/-- What may follow a sequence of groups: the end of the text or a double colon. -/
inductive Ends : List Char → Prop where
  | nil : Ends []
  | colons (cs : List Char) : Ends (':' :: ':' :: cs)

/-- What may follow one group: a colon, or the end of the text. -/
inductive AfterGroup : List Char → Prop where
  | nil : AfterGroup []
  | colon (cs : List Char) : AfterGroup (':' :: cs)

theorem Ends.afterGroup {rest : List Char} (h : Ends rest) : AfterGroup rest := by
  cases h with
  | nil =>
      exact AfterGroup.nil
  | colons cs =>
      exact AfterGroup.colon (':' :: cs)

theorem AfterGroup.stops {rest : List Char} (h : AfterGroup rest) {base : Nat}
    (hbase : base ≤ 16) : Stops base rest := by
  cases h with
  | nil =>
      simp
  | colon cs =>
      simp [Text.digit?, hbase]

theorem head?_spanDigits_ne_point {ds : List Nat} (hds : ∀ d ∈ ds, d < 16) {rest : List Char}
    (hrest : AfterGroup rest) :
    (Text.spanDigits 10 (ds.map Nat.digitChar ++ rest)).2.head? ≠ some '.' := by
  induction ds with
  | nil =>
      cases hrest <;> simp [Text.spanDigits, Text.digit?]
  | cons d ds ih =>
      have hrec := ih fun e he => hds e (by simp [he])
      have hd : d.digitChar ≠ '.' := Nat.digitChar_ne '.' (by decide)
      simp only [List.map_cons, List.cons_append, Text.spanDigits]
      cases Text.digit? 10 d.digitChar with
      | none =>
          simp
      | some e =>
          exact hrec

theorem scan?_hexadecimal (g : UInt16) {rest : List Char} (hrest : AfterGroup rest) :
    Ipv4.scan? (Text.hexadecimal g.toNat ++ rest) = none := by
  rcases Text.exists_digitsOf (by decide : 1 < 16) g.toNat with ⟨ds, hds⟩
  apply Ipv4.scan?_eq_none
  rw [Text.hexadecimal, hds.written]
  exact head?_spanDigits_ne_point hds.small hrest

/-!
## Runs of groups
-/

theorem run_group (g : UInt16) {rest : List Char} (hrest : AfterGroup rest) (limit : Nat) :
    run true (limit + 1) (Text.hexadecimal g.toNat ++ rest) =
      (⟨g :: (run false limit rest).1.groups, (run false limit rest).1.dotted⟩,
        (run false limit rest).2) := by
  simp [run, scan?_hexadecimal g hrest, group?_hexadecimal g (hrest.stops (Nat.le_refl 16))]

theorem run_colon (g : UInt16) {rest : List Char} (hrest : AfterGroup rest) (limit : Nat) :
    run false (limit + 1) (':' :: (Text.hexadecimal g.toNat ++ rest)) =
      run true (limit + 1) (Text.hexadecimal g.toNat ++ rest) := by
  simp [run, scan?_hexadecimal g hrest, group?_hexadecimal g (hrest.stops (Nat.le_refl 16))]

theorem run_ends {rest : List Char} (hrest : Ends rest) (first : Bool) (limit : Nat) :
    run first limit rest = (⟨[], false⟩, rest) := by
  cases limit with
  | zero =>
      rfl
  | succ limit =>
      have hscan (cs : List Char) : Ipv4.scan? (':' :: cs) = none :=
        Ipv4.scan?_eq_none (by simp [Text.spanDigits, Text.digit?])
      have hgroup (cs : List Char) : group? (':' :: cs) = none := by
        simp [group?, Text.spanDigits, Text.digit?]
      cases hrest with
      | nil =>
          cases first <;> simp [run, Ipv4.scan?, Ipv4.byte?, group?, Text.spanDigits]
      | colons cs =>
          cases first <;> simp [run, hscan, hgroup]

theorem run_joined {g : UInt16} {gs : List UInt16} {rest : List Char} (hrest : Ends rest)
    {limit : Nat} (hlimit : (g :: gs).length ≤ limit) :
    run true limit (joined (g :: gs) ++ rest) = (⟨g :: gs, false⟩, rest) := by
  induction gs generalizing g limit with
  | nil =>
      cases limit with
      | zero =>
          simp at hlimit
      | succ limit =>
          rw [joined, run_group g hrest.afterGroup, run_ends hrest]
  | cons h gs ih =>
      cases limit with
      | zero =>
          simp at hlimit
      | succ limit =>
          have hmore : (h :: gs).length ≤ limit := by
            simpa using hlimit
          have htext : joined (g :: h :: gs) ++ rest =
              Text.hexadecimal g.toNat ++ ':' :: (joined (h :: gs) ++ rest) := by
            simp [joined]
          have hnext : run false limit (':' :: (joined (h :: gs) ++ rest)) =
              (⟨h :: gs, false⟩, rest) := by
            rw [← ih hmore]
            cases limit with
            | zero =>
                simp at hmore
            | succ limit =>
                cases gs with
                | nil =>
                    exact run_colon h hrest.afterGroup limit
                | cons i gs =>
                    simpa [joined] using
                      run_colon h (AfterGroup.colon (joined (i :: gs) ++ rest)) limit
          rw [htext, run_group g (AfterGroup.colon _), hnext]

theorem run_joined_of_ends (gs : List UInt16) {rest : List Char} (hrest : Ends rest)
    {limit : Nat} (hlimit : gs.length ≤ limit) :
    run true limit (joined gs ++ rest) = (⟨gs, false⟩, rest) := by
  cases gs with
  | nil =>
      exact run_ends hrest true limit
  | cons g gs =>
      exact run_joined hrest hlimit

/-!
## Whole addresses
-/

theorem ofGroups?_groups (a : Ipv6) : ofGroups? a.groups = some a := by
  simp [ofGroups?, a.length_groups]

theorem scan?_joined (a : Ipv6) : scan? (joined a.groups) = some (a, []) := by
  have hlength := a.length_groups
  have hrun := run_joined_of_ends a.groups Ends.nil (by omega : _ ≤ 8)
  rw [List.append_nil] at hrun
  rw [scan?, hrun]
  simp [hlength, ofGroups?_groups]

/-- A double colon is read as the zero groups that it stands for, whichever they are. -/
theorem scan?_colons (a : Ipv6) {start size : Nat} (hsize : 1 ≤ size) (hend : start + size ≤ 8)
    (hzeros : (a.groups.drop start).take size = List.replicate size 0) :
    scan? (joined (a.groups.take start) ++ ':' :: ':' :: joined (a.groups.drop (start + size))) =
      some (a, []) := by
  have hlength := a.length_groups
  have hhead : (a.groups.take start).length = start := by
    simp
    omega
  have htail : (a.groups.drop (start + size)).length = 8 - (start + size) := by
    simp [hlength]
  have hrunHead := run_joined_of_ends (a.groups.take start)
    (Ends.colons (joined (a.groups.drop (start + size)))) (by omega : _ ≤ 8)
  have hrunTail := run_joined_of_ends (a.groups.drop (start + size)) Ends.nil
    (by omega : _ ≤ 7 - start)
  rw [List.append_nil] at hrunTail
  have hwhole : a.groups.take start ++ (List.replicate size 0 ++ a.groups.drop (start + size)) =
      a.groups := by
    rw [← hzeros, ← List.drop_drop, List.take_append_drop, List.take_append_drop]
  have hmissing : 8 - start - (8 - (start + size)) = size := by
    omega
  rw [scan?, hrunHead]
  simp only [Option.bind_eq_bind, hhead]
  rw [if_neg (by omega)]
  simp only [hrunTail, htail, hmissing, List.append_assoc, hwhole, ofGroups?_groups]
  rfl

theorem take_zerosAt (gs : List UInt16) (i : Nat) :
    (gs.drop i).take (zerosAt gs i) = List.replicate (zerosAt gs i) 0 := by
  have htake : (gs.drop i).take (zerosAt gs i) = (gs.drop i).takeWhile (· = 0) := by
    conv_lhs => rw [← List.takeWhile_append_dropWhile (p := (· = 0)) (l := gs.drop i)]
    exact List.take_left' rfl
  rw [htake]
  apply List.eq_replicate_of_mem
  intro g hg
  simpa using List.mem_takeWhile_imp hg

theorem scan?_compressed (a : Ipv6) : scan? (compressed a.groups) = some (a, []) := by
  rw [compressed]
  by_cases hsize : 2 ≤ zerosAt a.groups (longestZeros a.groups)
  · simp only [hsize, if_true]
    have hend : longestZeros a.groups + zerosAt a.groups (longestZeros a.groups) ≤ 8 := by
      have hle : zerosAt a.groups (longestZeros a.groups) ≤
          (a.groups.drop (longestZeros a.groups)).length := by
        rw [zerosAt]
        exact List.Sublist.length_le (List.takeWhile_sublist _)
      rw [List.length_drop, a.length_groups] at hle
      omega
    rw [List.append_assoc]
    exact scan?_colons a (by omega) hend (take_zerosAt a.groups _)
  · simp only [hsize, if_false]
    exact scan?_joined a

theorem groupsOfIpv4_lastFour (high low : UInt16) :
    groupsOfIpv4 (lastFour high low) = [high, low] := by
  have hword (w : UInt16) : (w >>> 8).toUInt8.toUInt16 <<< 8 ||| w.toUInt8.toUInt16 = w := by
    have hw : w.toNat < 65536 := w.toNat_lt
    have hjoin : (w.toNat / 256) <<< 8 ||| w.toNat % 256 = w.toNat := by
      rw [← Nat.shiftLeft_add_eq_or_of_lt (Nat.mod_lt _ (by decide)), Nat.shiftLeft_eq]
      omega
    apply UInt16.toNat_inj.mp
    have hhigh : w.toNat / 256 % 256 = w.toNat / 256 := Nat.mod_eq_of_lt (by omega)
    have hshift : (w.toNat / 256) <<< 8 % 65536 = (w.toNat / 256) <<< 8 := by
      rw [Nat.shiftLeft_eq]
      omega
    simp [Nat.shiftRight_eq_div_pow, hhigh, hshift, hjoin]
  simp only [groupsOfIpv4, lastFour, hword]

theorem scan?_mapped {a : Ipv6} {high low : UInt16}
    (ha : a.groups = [0, 0, 0, 0, 0, 0xFFFF, high, low]) :
    scan? ([':', ':', 'f', 'f', 'f', 'f', ':'] ++ (lastFour high low).chars) = some (a, []) := by
  have hcolons := run_ends (Ends.colons
    (Text.hexadecimal (0xFFFF : UInt16).toNat ++ ':' :: (lastFour high low).chars)) true 8
  have hdotted : Ipv4.scan? (lastFour high low).chars = some (lastFour high low, []) := by
    simpa using Ipv4.scan?_chars (lastFour high low) (Text.stops_nil 10)
  have htail : run false 6 (':' :: (lastFour high low).chars) = (⟨[high, low], true⟩, []) := by
    simp [run, hdotted, groupsOfIpv4_lastFour]
  have hgroup : run true 7
      (Text.hexadecimal (0xFFFF : UInt16).toNat ++ ':' :: (lastFour high low).chars) =
      (⟨[0xFFFF, high, low], true⟩, []) := by
    rw [run_group 0xFFFF (AfterGroup.colon _), htail]
  have htext : [':', ':', 'f', 'f', 'f', 'f', ':'] ++ (lastFour high low).chars =
      ':' :: ':' :: (Text.hexadecimal (0xFFFF : UInt16).toNat ++
        ':' :: (lastFour high low).chars) := by
    rfl
  have hgroups := ofGroups?_groups a
  rw [ha] at hgroups
  rw [htext, scan?, hcolons]
  simp only [Option.bind_eq_bind, List.length_nil, Nat.sub_zero, hgroup]
  simp [hgroups]

theorem scan?_chars (a : Ipv6) : scan? a.chars = some (a, []) := by
  rw [chars]
  split
  · rename_i ha
    exact scan?_mapped ha
  · exact scan?_compressed a

theorem ofString?_text (a : Ipv6) : ofString? a.text = some a := by
  rw [ofString?, text, String.toList_ofList, scan?_chars]

end Ipv6

end DnsView
