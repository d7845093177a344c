/-!
# Powers of natural numbers

A library that is imported may bring powers of its own. In all modules of this one `2 ^ 32` is the
power of the core library, so it means the same whatever else a module imports.
-/
attribute [instance (20000), default_instance 20000] instPowNat
