/-!
# Positions in a choice

A choice among several types is a nested sum that ends in the empty type. The injections below
name its positions, both to build a value and to match on one.
-/
namespace Sum

variable {α β γ δ ε ζ η θ ι κ rest : Type}

/-- The first variant. -/
@[match_pattern, inline]
abbrev at0 (value : α) : α ⊕ rest := .inl value

/-- The second variant. -/
@[match_pattern, inline]
abbrev at1 (value : β) : α ⊕ β ⊕ rest := .inr (.inl value)

/-- The third variant. -/
@[match_pattern, inline]
abbrev at2 (value : γ) : α ⊕ β ⊕ γ ⊕ rest := .inr (.at1 value)

/-- The fourth variant. -/
@[match_pattern, inline]
abbrev at3 (value : δ) : α ⊕ β ⊕ γ ⊕ δ ⊕ rest := .inr (.at2 value)

/-- The fifth variant. -/
@[match_pattern, inline]
abbrev at4 (value : ε) : α ⊕ β ⊕ γ ⊕ δ ⊕ ε ⊕ rest := .inr (.at3 value)

/-- The sixth variant. -/
@[match_pattern, inline]
abbrev at5 (value : ζ) : α ⊕ β ⊕ γ ⊕ δ ⊕ ε ⊕ ζ ⊕ rest := .inr (.at4 value)

/-- The seventh variant. -/
@[match_pattern, inline]
abbrev at6 (value : η) : α ⊕ β ⊕ γ ⊕ δ ⊕ ε ⊕ ζ ⊕ η ⊕ rest := .inr (.at5 value)

/-- The eighth variant. -/
@[match_pattern, inline]
abbrev at7 (value : θ) : α ⊕ β ⊕ γ ⊕ δ ⊕ ε ⊕ ζ ⊕ η ⊕ θ ⊕ rest := .inr (.at6 value)

/-- The ninth variant. -/
@[match_pattern, inline]
abbrev at8 (value : ι) : α ⊕ β ⊕ γ ⊕ δ ⊕ ε ⊕ ζ ⊕ η ⊕ θ ⊕ ι ⊕ rest := .inr (.at7 value)

/-- The tenth variant. -/
@[match_pattern, inline]
abbrev at9 (value : κ) : α ⊕ β ⊕ γ ⊕ δ ⊕ ε ⊕ ζ ⊕ η ⊕ θ ⊕ ι ⊕ κ ⊕ rest := .inr (.at8 value)

end Sum
