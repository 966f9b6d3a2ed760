/-!
# Powers

Powers with a natural exponent are those of the core library. A module that also sees other instances of
the operation means the same by `10 ^ n` as one that does not.
-/

attribute [instance (2000), default_instance 20000] instPowNat
