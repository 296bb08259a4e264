import Accessors.Proofs.Service.Loading

/-!
# The port variable on its own

With no other variable set, loading is up to the text for the port. It is read digit by digit into a
number that has room for ports only, yet what comes of it is said by the whole number that the text
writes, however long the text is.

* `Writes`: the number that a text writes.
* `loadPort_reads`: which texts are loaded, and with which port.
-/

namespace Accessors.Service

/-- A text is one or more decimal digits, perhaps behind one plus sign, that write the number. Leading
zeros are digits, and there is no limit to the number. -/
def Writes (text : List Char) (n : Nat) : Prop :=
  ∃ digits, (text = digits ∨ text = '+' :: digits) ∧ digits ≠ [] ∧
    (∀ c ∈ digits, c.isDigit = true) ∧ Nat.ofDigitChars 10 digits 0 = n

/-- A sign is no digit, so it is clear where the digits begin. -/
theorem Writes.unique {text : List Char} {m n : Nat} (hm : Writes text m) (hn : Writes text n) :
    m = n := by
  have hplus : ¬ '+'.isDigit = true := by decide
  obtain ⟨digits, hdigits, -, hall, rfl⟩ := hm
  obtain ⟨digits', hdigits', -, hothers, rfl⟩ := hn
  have hsame : digits = digits' := by
    rcases hdigits with rfl | rfl
    · rcases hdigits' with h | rfl
      · exact h
      · exact absurd (hall '+' (by simp)) hplus
    · rcases hdigits' with rfl | h
      · exact absurd (hothers '+' (by simp)) hplus
      · exact (List.cons.inj h).2
  rw [hsame]

/-- Zeros in front of digits add nothing to the number. -/
theorem ofDigitChars_replicate_zero (k : Nat) (digits : List Char) :
    Nat.ofDigitChars 10 (List.replicate k '0' ++ digits) 0 = Nat.ofDigitChars 10 digits 0 := by
  induction k with
  | zero => rfl
  | succ k ih => rw [List.replicate_succ, List.cons_append, Nat.ofDigitChars_cons]; exact ih

/-- Any number of zeros may stand in front of the digits. -/
theorem Writes.zeros {digits sign : List Char} {n : Nat} (hsign : sign = [] ∨ sign = ['+'])
    (hdigits : ∀ c ∈ digits, c.isDigit = true) (h : Writes (sign ++ digits) n) (k : Nat) :
    Writes (sign ++ List.replicate k '0' ++ digits) n := by
  have hplus : ¬ '+'.isDigit = true := by decide
  have hbehind : digits ≠ [] ∧ Nat.ofDigitChars 10 digits 0 = n := by
    obtain ⟨digits', heq, hne, hall, hvalue⟩ := h
    have hsame : digits' = digits := by
      rcases hsign with rfl | rfl
      · rcases heq with rfl | heq
        · rfl
        · rw [List.nil_append] at heq
          exact absurd (hdigits '+' (by simp [heq])) hplus
      · rcases heq with rfl | heq
        · exact absurd (hall '+' (by simp)) hplus
        · exact (List.cons.inj heq).2.symm
    exact ⟨hsame ▸ hne, hsame ▸ hvalue⟩
  refine ⟨List.replicate k '0' ++ digits, ?_, by simp [hbehind.1], fun c hc => ?_, ?_⟩
  · rcases hsign with rfl | rfl
    · exact .inl rfl
    · exact .inr rfl
  · rcases List.mem_append.1 hc with hc | hc
    · rw [List.eq_of_mem_replicate hc]
      decide
    · exact hdigits c hc
  · rw [ofDigitChars_replicate_zero, hbehind.2]

namespace Config

/-- The variables of which only the port's is set. -/
def portAlone (t : String) : Variables := ⟨none, none, none, some t.toUTF8, none, none⟩

/-- Variables that are not set leave the defaults of development in place. -/
theorem describes_portAlone {t : String} {p : Port} (h : WritesPort t.toList p) :
    (portAlone t).Describes { ofEnvironment .development with port := p } where
  environment := .unnamed nofun nofun
  host := .default nofun
  port := .text rfl h
  logLevel := .default nofun
  serviceName := .default nofun

/-- What comes of a text for the port when no other variable is set. -/
structure ReadsAlone (t : String) : Prop where
  /-- A text that writes a number of sixteen bits is loaded, with this number for its port. -/
  loads : ∀ n (hn : n ≤ 65535), Writes t.toList n →
    load (portAlone t) = .ok { ofEnvironment .development with port := ⟨n, Nat.lt_succ_of_le hn⟩ }
  /-- Any other text is refused as a port. -/
  refuses : (¬ ∃ n ≤ 65535, Writes t.toList n) → load (portAlone t) = .error (.invalid .port t)
  /-- Only texts that write such a number are loaded, and none writes two numbers. -/
  onlyIf : ∀ c, load (portAlone t) = .ok c → Writes t.toList c.port.val
  unique : ∀ m n, Writes t.toList m → Writes t.toList n → m = n
  /-- Zeros between the sign and the other digits make no difference. -/
  zeros : ∀ sign digits n k, t.toList = sign ++ digits → sign = [] ∨ sign = ['+'] →
    (∀ c ∈ digits, c.isDigit = true) → Writes t.toList n →
    Writes (sign ++ List.replicate k '0' ++ digits) n

/-- **A port is the number that its text writes**, with a sign or without, or else it is refused. It is
never cut short to fit. -/
theorem loadPort_reads (t : String) : ReadsAlone t := by
  have hdefaults : (ofEnvironment .development).validate = .ok () := by decide +kernel
  -- The port has no part in whether a configuration is valid.
  have hvalid (p : Port) : { ofEnvironment .development with port := p }.validate = .ok () := hdefaults
  have hloads (p : Port) (h : WritesPort t.toList p) :
      load (portAlone t) = .ok { ofEnvironment .development with port := p } := by
    rw [load_of_describes (describes_portAlone h), hvalid]
    rfl
  have hrefuses (hno : ∀ p, ¬ WritesPort t.toList p) :
      load (portAlone t) = .error (.invalid .port t) :=
    load_of_noPort (.unnamed nofun nofun) rfl hno
  refine ⟨fun n hn h => hloads _ h, fun hno => hrefuses fun p h => hno ⟨p, ?_, h⟩, fun c hc => ?_,
    fun m n hm hn => hm.unique hn, fun sign digits n k ht hsign hdigits h => ?_⟩
  · exact Nat.le_of_lt_succ p.isLt
  · by_cases hport : ∃ p, WritesPort t.toList p
    · obtain ⟨p, hp⟩ := hport
      obtain rfl := Except.ok.inj ((hloads p hp).symm.trans hc)
      exact hp
    · cases (hrefuses (not_exists.1 hport)).symm.trans hc
  · rw [ht] at h
    exact h.zeros hsign hdigits k

/-- The greatest port behind zeros, and the number after it. -/
example : (load (portAlone "+0000000065535")).map (·.port) = .ok 65535 ∧
    load (portAlone "65536") = .error (.invalid .port "65536") ∧
    load (portAlone "++1") = .error (.invalid .port "++1") := by
  decide +kernel

end Config

end Accessors.Service
