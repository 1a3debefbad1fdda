import RecordMapper.Json.Printer
import RecordMapper.Proofs.Json.Number

/-!
The texts of doubles as the reader of numbers takes them: from the first character to the last, whatever
number they are taken for.
-/

namespace RecordMapper

theorem stripZeros_digits_ne_zero (negative : Bool) (count : Nat) {digits : Nat} (exponent : Int)
    (h : digits ≠ 0) : (stripZeros negative count digits exponent).digits ≠ 0 := by
  fun_induction stripZeros negative count digits exponent with
  | case1 => exact h
  | case2 count digits exponent hzero ih => exact ih (by omega)
  | case3 => exact h

namespace Finite

variable {f : BinaryFormat} {x : Finite f} {tie : Tie}

theorem units_ne_zero (h : x.isZero = false) : x.units ≠ 0 := by
  have hrank : x.rank ≠ 0 := by simpa [isZero] using h
  unfold units BinaryFormat.units
  split
  · exact hrank
  · have := Nat.two_pow_pos f.fractionBits
    have hpower := Nat.two_pow_pos (x.rank / 2 ^ f.fractionBits - 1)
    exact Nat.ne_of_gt (Nat.mul_pos (by omega) hpower)

theorem ofDecimal_zero_ne (h : x.isZero = false) (exponent : Int) :
    Binary.ofDecimal f ⟨x.negative, 0, exponent⟩ ≠ .finite x := by
  intro heq
  rw [Binary.ofDecimal, if_pos rfl, Binary.ofRank] at heq
  split at heq
  · rw [← Binary.finite.inj heq] at h
    cases h
  · cases heq

theorem neighbour?_ne_zero (h : x.isZero = false) {exponent : Int} {found : Nat}
    (hfound : x.neighbour? tie exponent = some found) : found ≠ 0 := by
  rintro rfl
  unfold neighbour? at hfound
  dsimp only at hfound
  split at hfound
  · next hbelow _ =>
    have hzero := Option.some.inj hfound
    split at hzero
    · rw [hzero] at hbelow
      exact ofDecimal_zero_ne h exponent (of_decide_eq_true hbelow)
    · exact Nat.succ_ne_zero _ hzero
  · next hbelow _ =>
    rw [Option.some.inj hfound] at hbelow
    exact ofDecimal_zero_ne h exponent (of_decide_eq_true hbelow)
  · exact Nat.succ_ne_zero _ (Option.some.inj hfound)
  · cases hfound

theorem searchDecimal_digits_ne_zero (h : x.isZero = false) {more digits : Nat} {d : Decimal}
    (hfound : x.searchDecimal tie more digits = some d) : d.digits ≠ 0 := by
  fun_induction searchDecimal tie x more digits with
  | case1 => cases hfound
  | case2 more digits exponent found hneighbour =>
    cases hfound
    exact stripZeros_digits_ne_zero _ _ _ (neighbour?_ne_zero h hneighbour)
  | case3 more digits exponent hneighbour ih => exact ih hfound

theorem shortest_digits (x : Finite f) (tie : Tie) :
    (x.shortest tie).digits ≠ 0 ∨ x.shortest tie = ⟨x.negative, 0, 0⟩ := by
  unfold shortest
  cases h : x.isZero with
  | true => exact .inr rfl
  | false =>
    left
    simp only [Bool.false_eq_true, if_false]
    cases hfound : x.searchDecimal tie 17 1 with
    | none => exact Nat.mul_ne_zero (units_ne_zero h) (Nat.ne_of_gt (Nat.pow_pos (by decide)))
    | some d => exact searchDecimal_digits_ne_zero h hfound

end Finite

namespace Json

def IsWhole (cs : List Char) : Prop :=
  cs = ['0'] ∨ ∃ c later, cs = c :: later ∧ c ≠ '0' ∧ ∀ d ∈ cs, d.isDigit = true

def IsFraction (cs : List Char) : Prop :=
  cs = [] ∨ ∃ digits, cs = '.' :: digits ∧ ∀ d ∈ digits, d.isDigit = true

def IsExponent (cs : List Char) : Prop :=
  cs = [] ∨ ∃ i : Int, cs = 'e' :: intDigits i ∨ 0 ≤ i ∧ cs = 'e' :: '+' :: intDigits i

inductive Unsigned : List Char → Prop where
  | mk {whole fraction exponent : List Char} : IsWhole whole → IsFraction fraction →
    IsExponent exponent → Unsigned (whole ++ (fraction ++ exponent))

theorem IsWhole.takeWhole {cs rest : List Char} (h : IsWhole cs)
    (hrest : ∀ c ∈ rest.head?, c.isDigit = false) : takeWhole (cs ++ rest) = (cs, rest) := by
  rcases h with rfl | ⟨c, later, rfl, hc, hdigits⟩
  · rfl
  · obtain ⟨htake, hdrop⟩ := takeDigits_stop hdigits hrest
    rw [List.cons_append] at htake hdrop ⊢
    rw [takeWhole_of_ne hc, htake, hdrop]

theorem IsExponent.head {cs : List Char} (h : IsExponent cs) : ∀ c ∈ cs.head?, c = 'e' := by
  rcases h with rfl | ⟨i, rfl | ⟨-, rfl⟩⟩ <;> simp

theorem IsFraction.takeFraction {cs rest : List Char} (h : IsFraction cs) (hrest : IsExponent rest) :
    (takeFraction (cs ++ rest)).2 = rest := by
  rcases h with rfl | ⟨digits, rfl, hdigits⟩
  · cases rest with
    | nil => rfl
    | cons c rest =>
      obtain rfl := hrest.head c rfl
      rfl
  · rw [List.cons_append, RecordMapper.takeFraction]
    refine (takeDigits_stop hdigits ?_).2
    intro c hc
    obtain rfl := hrest.head c hc
    decide

theorem takeSign_natDigits (n : Nat) : takeSign (natDigits n) = (false, natDigits n) := by
  obtain ⟨c, cs, hdigits⟩ := List.exists_cons_of_ne_nil (natDigits_ne_nil n)
  have hc : c.isDigit = true := isDigit_of_mem_natDigits (n := n) (by simp [hdigits])
  rw [hdigits]
  unfold takeSign
  split
  · next heq =>
    cases heq
    exact absurd hc (by decide)
  · next heq =>
    cases heq
    exact absurd hc (by decide)
  · rfl

theorem takeExponent_of_takeSign {n : Nat} {negative : Bool} {cs : List Char}
    (h : takeSign cs = (negative, natDigits n)) : (takeExponent ('e' :: cs)).2 = [] := by
  have hall : ∀ d ∈ natDigits n, d.isDigit = true := fun _ => isDigit_of_mem_natDigits
  have hend : ∀ c ∈ ([] : List Char).head?, c.isDigit = false := by simp
  obtain ⟨htake, hdrop⟩ := takeDigits_stop hall hend
  rw [List.append_nil] at htake hdrop
  have hleading : leadingDigits? (natDigits n) = some (natDigits n) := by
    unfold leadingDigits?
    rw [htake]
    split
    · next hnil => exact absurd hnil (natDigits_ne_nil n)
    · rfl
  simp [takeExponent, h, hleading, hdrop]

theorem IsExponent.takeExponent {cs : List Char} (h : IsExponent cs) : (takeExponent cs).2 = [] := by
  rcases h with rfl | ⟨i, rfl | ⟨hpos, rfl⟩⟩
  · rfl
  · obtain ⟨-, htext⟩ | ⟨-, htext⟩ := intDigits_cases i
    · have hsign : takeSign ('-' :: natDigits i.natAbs) = (true, natDigits i.natAbs) := rfl
      rw [htext]
      exact takeExponent_of_takeSign hsign
    · rw [htext]
      exact takeExponent_of_takeSign (takeSign_natDigits _)
  · have hsign : takeSign ('+' :: natDigits i.natAbs) = (false, natDigits i.natAbs) := rfl
    rw [intDigits, if_neg (by omega)]
    exact takeExponent_of_takeSign hsign

theorem Unsigned.behind {negative : Bool} {cs behind : List Char} {n : Number} (h : Unsigned cs)
    (hread : readUnsigned negative cs = some (n, behind)) : behind = [] := by
  obtain ⟨hwhole, hfraction, hexponent⟩ := h
  rename_i whole fraction exponent
  have hhead : ∀ c ∈ (fraction ++ exponent).head?, c.isDigit = false := by
    intro c hc
    rcases hfraction with rfl | ⟨digits, rfl, -⟩
    · obtain rfl := hexponent.head c hc
      decide
    · cases hc
      decide
  unfold readUnsigned at hread
  simp only [hwhole.takeWhole hhead, hfraction.takeFraction hexponent,
    hexponent.takeExponent] at hread
  split at hread
  · cases hread
  · obtain ⟨m, -, hm⟩ := Option.map_eq_some_iff.1 hread
    cases hm
    rfl

theorem Unsigned.head {cs : List Char} (h : Unsigned cs) :
    ∃ c later, cs = c :: later ∧ c.isDigit = true := by
  obtain ⟨hwhole, -, -⟩ := h
  rcases hwhole with rfl | ⟨c, later, rfl, -, hdigits⟩
  · exact ⟨_, _, rfl, by decide⟩
  · exact ⟨_, _, rfl, hdigits c List.mem_cons_self⟩

/-! The texts that a layout gives. -/

theorem isWhole_natDigits {n : Nat} (h : n ≠ 0) {zeros : List Char}
    (hzeros : ∀ d ∈ zeros, d.isDigit = true) : IsWhole (natDigits n ++ zeros) := by
  obtain ⟨c, cs, hdigits, hc⟩ := natDigits_head h
  refine .inr ⟨c, cs ++ zeros, by rw [hdigits]; rfl, hc, ?_⟩
  intro d hd
  rcases List.mem_append.1 hd with hd | hd
  · exact isDigit_of_mem_natDigits hd
  · exact hzeros d hd

theorem isDigit_of_mem_zeros {count : Nat} {c : Char} (h : c ∈ List.replicate count '0') :
    c.isDigit = true := by
  rw [List.eq_of_mem_replicate h]
  decide

theorem unsigned_plainText (layout : Layout) {n : Nat} {exponent : Int}
    (h : n ≠ 0 ∨ n = 0 ∧ exponent = 0) :
    Unsigned (layout.plainText (natDigits n) exponent) := by
  have hdigits : ∀ d ∈ natDigits n, d.isDigit = true := fun _ => isDigit_of_mem_natDigits
  have hpoint : IsFraction (if layout.fraction then ['.', '0'] else []) := by
    split
    · exact .inr ⟨['0'], rfl, by simp⟩
    · exact .inl rfl
  rcases h with hn | ⟨rfl, rfl⟩
  · unfold Layout.plainText
    dsimp only
    split
    · have hfraction : IsFraction
          ('.' :: (List.replicate (-exponent - 1).toNat '0' ++ natDigits n)) := by
        refine .inr ⟨_, rfl, ?_⟩
        intro d hd
        rcases List.mem_append.1 hd with hd | hd
        · exact isDigit_of_mem_zeros hd
        · exact hdigits d hd
      simpa using Unsigned.mk (.inl rfl) hfraction (.inl rfl)
    · split
      · have hzeros : ∀ d ∈ List.replicate (exponent.toNat + 1 - (natDigits n).length) '0',
            d.isDigit = true := fun _ => isDigit_of_mem_zeros
        simpa using Unsigned.mk (isWhole_natDigits hn hzeros) hpoint (.inl rfl)
      · have hwhole : IsWhole ((natDigits n).take (exponent.toNat + 1)) := by
          obtain ⟨c, cs, htext, hc⟩ := natDigits_head hn
          rw [htext] at hdigits ⊢
          refine .inr ⟨c, cs.take exponent.toNat, rfl, hc, ?_⟩
          exact fun d hd => hdigits d (List.mem_of_mem_take hd)
        have hfraction : IsFraction ('.' :: (natDigits n).drop (exponent.toNat + 1)) :=
          .inr ⟨_, rfl, fun d hd => hdigits d (List.mem_of_mem_drop hd)⟩
        simpa using Unsigned.mk hwhole hfraction (.inl rfl)
  · simpa [Layout.plainText, natDigits_zero] using Unsigned.mk (.inl rfl) hpoint (.inl rfl)

theorem unsigned_scientificText (layout : Layout) (n : Nat) (exponent : Int) :
    Unsigned (layout.scientificText (natDigits n) exponent) := by
  have hdigits : ∀ d ∈ natDigits n, d.isDigit = true := fun _ => isDigit_of_mem_natDigits
  obtain ⟨c, cs, htext⟩ := List.exists_cons_of_ne_nil (natDigits_ne_nil n)
  rw [htext] at hdigits
  obtain ⟨hc, hcs⟩ := List.forall_mem_cons.1 hdigits
  have hwhole : IsWhole [c] := by
    by_cases hzero : c = '0'
    · exact .inl (by rw [hzero])
    · exact .inr ⟨c, [], rfl, hzero, by simpa using hc⟩
  have hexponent : IsExponent
      ('e' :: (if 0 ≤ exponent && layout.plus then ['+'] else []) ++ intDigits exponent) := by
    refine .inr ⟨exponent, ?_⟩
    split
    · next hplus =>
      simp only [Bool.and_eq_true, decide_eq_true_eq] at hplus
      exact .inr ⟨hplus.1, rfl⟩
    · exact .inl rfl
  have hfraction : IsFraction ((if (c :: cs).length ≤ 1 then [] else ['.']) ++ cs) := by
    split
    · next hlength => exact .inl (by simpa using hlength)
    · exact .inr ⟨cs, rfl, hcs⟩
  have htexts : layout.scientificText (c :: cs) exponent =
      [c] ++ ((if (c :: cs).length ≤ 1 then [] else ['.']) ++ cs ++
        ('e' :: (if 0 ≤ exponent && layout.plus then ['+'] else []) ++ intDigits exponent)) := by
    simp [Layout.scientificText]
  rw [htext, htexts]
  exact .mk hwhole hfraction hexponent

theorem unsigned_finiteText (x : FiniteDouble) :
    ∃ cs, Unsigned cs ∧ (Layout.document.finiteText x = cs ∨
      Layout.document.finiteText x = '-' :: cs) := by
  unfold Layout.finiteText Layout.decimalText
  dsimp only
  generalize hd : x.shortest Layout.document.tie = d
  have hdigits : d.digits ≠ 0 ∨ d.digits = 0 ∧ d.exponent + (natDigits d.digits).length - 1 = 0 := by
    rcases x.shortest_digits Layout.document.tie with h | h
    · exact .inl (hd ▸ h)
    · rw [hd] at h
      rw [h, natDigits_zero]
      exact .inr ⟨rfl, rfl⟩
  generalize d.exponent + (natDigits d.digits).length - 1 = exponent at hdigits ⊢
  have hunsigned : Unsigned (if Layout.document.plain exponent then
      Layout.document.plainText (natDigits d.digits) exponent
      else Layout.document.scientificText (natDigits d.digits) exponent) := by
    split
    · exact unsigned_plainText _ hdigits
    · exact unsigned_scientificText _ _ _
  refine ⟨_, hunsigned, ?_⟩
  cases d.negative
  · exact .inl rfl
  · exact .inr rfl

theorem behind_of_readNumber_finiteText {x : FiniteDouble} {n : Number} {behind : List Char}
    (h : readNumber (Layout.document.finiteText x) = some (n, behind)) : behind = [] := by
  obtain ⟨cs, hcs, htext | htext⟩ := unsigned_finiteText x
  · obtain ⟨c, later, rfl, hc⟩ := hcs.head
    rw [htext, readNumber_of_ne (by rintro rfl; exact absurd hc (by decide))] at h
    exact hcs.behind h
  · rw [htext] at h
    change readUnsigned true cs = _ at h
    exact hcs.behind h

theorem head_finiteText (x : FiniteDouble) :
    ∃ c later, Layout.document.finiteText x = c :: later ∧ (c = '-' ∨ c.isDigit = true) := by
  obtain ⟨cs, hcs, htext | htext⟩ := unsigned_finiteText x
  · obtain ⟨c, later, rfl, hc⟩ := hcs.head
    exact ⟨c, later, htext, .inr hc⟩
  · exact ⟨'-', cs, htext, .inl rfl⟩

end Json

end RecordMapper
