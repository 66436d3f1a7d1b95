import Mathlib.Data.Set.Basic

/-!
# Credentials in pairs

The holder of a credential accepts whoever shows `key`, and shows `token` itself.  When two holders
have agreed, the token of each is the key of the other.  A holder may be known in several versions,
the one it uses and others that it may still go back to.

Credentials are paired when the keys tell the holders and the versions apart, and when each token
that is a key belongs to a holder that shows the key of the other one.  New credentials that two
holders exchange keep that, as do all changes that only forget some.
-/

namespace Pairing

universe u v

/-- What a place accepts and shows. -/
@[ext] structure Credential (P : Type u) (K : Type v) where
  place : P
  key : K
  token : Option K

variable {P : Type u} {K : Type v} {credentials smaller : Set (Credential P K)}
variable {a b c : Credential P K} {k : K}

/-- The credentials are in pairs. -/
structure Paired (credentials : Set (Credential P K)) : Prop where
  /-- A key is that of one place, with one token. -/
  eq_of_key : ∀ a ∈ credentials, ∀ b ∈ credentials, a.key = b.key → a = b
  /-- Whose token is the key of another, has the key that is its token. -/
  key_of_token : ∀ a ∈ credentials, ∀ b ∈ credentials, a.token = some b.key → b.token = some a.key

/-- No credential has the key, be it as its token. -/
def Unused (credentials : Set (Credential P K)) (k : K) : Prop :=
  ∀ a ∈ credentials, a.key ≠ k ∧ a.token ≠ some k

theorem Unused.mono (unused : Unused credentials k) (sub : smaller ⊆ credentials) :
    Unused smaller k := fun a mem => unused a (sub mem)

theorem Paired.mono (paired : Paired credentials) (sub : smaller ⊆ credentials) :
    Paired smaller where
  eq_of_key a ha b hb := paired.eq_of_key a (sub ha) b (sub hb)
  key_of_token a ha b hb := paired.key_of_token a (sub ha) b (sub hb)

/-- **Two places exchange new keys.** -/
theorem Paired.exchange (paired : Paired credentials) {p q : P} {k l : K}
    (hk : Unused credentials k) (hl : Unused credentials l) (distinct : k ≠ l) :
    Paired (insert ⟨p, k, some l⟩ (insert ⟨q, l, some k⟩ credentials)) := by
  constructor
  · rintro a (rfl | rfl | ha) b (rfl | rfl | hb) same
    · rfl
    · exact absurd same distinct
    · exact absurd same.symm (hk b hb).1
    · exact absurd same.symm distinct
    · rfl
    · exact absurd same.symm (hl b hb).1
    · exact absurd same (hk a ha).1
    · exact absurd same (hl a ha).1
    · exact paired.eq_of_key a ha b hb same
  · rintro a (rfl | rfl | ha) b (rfl | rfl | hb) shown
    · exact absurd (Option.some.inj shown).symm distinct
    · rfl
    · exact absurd (Option.some.inj shown).symm (hl b hb).1
    · rfl
    · exact absurd (Option.some.inj shown) distinct
    · exact absurd (Option.some.inj shown).symm (hk b hb).1
    · exact absurd shown (hk a ha).2
    · exact absurd shown (hl a ha).2
    · exact paired.key_of_token a ha b hb shown

end Pairing
