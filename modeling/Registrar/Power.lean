/-!
This module contains nothing but a choice: a power with a natural exponent is the one of the core
library, also where a larger library offers another instance for it. So the definitions in terms of
powers are the same terms wherever they are read.
-/

attribute [default_instance 20000, instance (high)] instPowNat
