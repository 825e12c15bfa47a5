/-
# The examples as programs

`examples/basic_example.py` and `examples/cuda_integration.py` as statements of
`Callers.Semantics`. The code around the bindings is a stretch that may raise
(`Stmt.outside`): `env` says what each stretch raises, numbered in the order of the source, so a
theorem over every `env` covers every failure of CuPy, NumPy, `print` and the bandwidth
arithmetic, and a missing CuPy. The addresses CuPy and NumPy hand out are parameters too.

Both are programs of `Callers.Tidy`'s closing functions: each function that creates an
instance opens it, pins and binds one buffer inside a `try`, and closes the instance in the
`finally`.
-/

import GdrCopy.Callers.Semantics

namespace GdrCopy

namespace BasicExample

/-- `main()` of `examples/basic_example.py`. The array is `cp.arange(1000, dtype=np.float32)`,
4000 bytes at `gpuPtr`, and NumPy's host array is at `hostPtr`. `env k` is what the `k`-th
stretch around the bindings raises: the version `print` (0), `import cupy` (1), the
allocation and its `print`s (2), the info `print` (3), the mapping `print` and the host
allocation (4), the `print`s and the update between the copies (5), `cp.asnumpy` and its
`print` (6), and the `print`s of the `ImportError` (7) and `Exception` (8) handlers. -/
def main (env : Nat → Option Thrown) (gpuPtr hostPtr : Int) : Stmt :=
  .tryExcept
    (.seqs [.invoke (.module .getVersion), .outside (env 0),
      .tryExcept
        (.seqs [.outside (env 1), .outside (env 2), .newInstance, .invoke (.gdr .open),
          .tryFinally
            (.seq (.assignHandle (.pinBufferV2 gpuPtr 4000 gdrPinFlagDefault))
              (.seqs [.invoke (.handle .getInfo), .outside (env 3),
                .invoke (.handle (.map 4000)), .outside (env 4),
                .invoke (.handle (.copyFromMapping hostPtr 4000)), .outside (env 5),
                .invoke (.handle (.copyToMapping hostPtr 4000)), .outside (env 6)]))
            (.invoke (.gdr .close))])
        .importError (.seq (.outside (env 7)) .ret)])
    .exception (.seq (.outside (env 8)) .ret)

end BasicExample

namespace CudaIntegration

/-- `gpu_array.nbytes` of `cp.ones(size_mb * 1024 * 1024 // 4, dtype=np.float32)`. -/
def nbytes (sizeMb : Nat) : Int := (sizeMb * 1024 * 1024 / 4 * 4 : Nat)

/-- `benchmark_transfer(size_mb, use_force_pcie)`, with the arrays CuPy and NumPy allocate at
`gpuPtr` and `hostPtr`. `env k` is what the `k`-th stretch around the bindings raises:
`import cupy` (0), the `print`s of its handler (1), the allocations (2), the first
`time.time()` (3), and the timing and bandwidth arithmetic after each loop (4, 5). -/
def benchmarkTransfer (sizeMb : Nat) (useForcePcie : Bool) (env : Nat → Option Thrown)
    (gpuPtr hostPtr : Int) : Stmt :=
  .seqs [.tryExcept (.outside (env 0)) .importError (.seq (.outside (env 1)) .ret),
    .outside (env 2), .newInstance, .invoke (.gdr .open),
    .tryFinally
      (.seq (.assignHandle (.pinBufferV2 gpuPtr (nbytes sizeMb)
          (if useForcePcie then gdrPinFlagForcePcie else gdrPinFlagDefault)))
        (.seqs [.invoke (.handle (.map (nbytes sizeMb))), .outside (env 3),
          .loop 10 (.invoke (.handle (.copyFromMapping hostPtr (nbytes sizeMb)))),
          .outside (env 4),
          .loop 10 (.invoke (.handle (.copyToMapping hostPtr (nbytes sizeMb)))),
          .outside (env 5), .ret]))
      (.invoke (.gdr .close))]

/-- `compare_with_cupy_transfer(size_mb)`. Its stretches are `import cupy` (0), the `print`s of
its handler (1), and its allocations, CuPy loop and arithmetic (2); the `benchmark_transfer`
it calls sees `env (k + 3)` as its `k`-th and allocates at `gpuPtr` and `hostPtr`. -/
def compareWithCupyTransfer (sizeMb : Nat) (env : Nat → Option Thrown) (gpuPtr hostPtr : Int) :
    Stmt :=
  .seqs [.tryExcept (.outside (env 0)) .importError (.seq (.outside (env 1)) .ret),
    .outside (env 2), .call (benchmarkTransfer sizeMb false (fun k => env (k + 3)) gpuPtr hostPtr),
    .ret]

/-- The sizes `main` benchmarks, in MB. -/
def sizes : List Nat := [1, 10, 100, 500]

/-- `main()`: its three loops over `sizes`. The `k`-th of its twelve calls sees `env k` and
allocates at `gpuPtr k` and `hostPtr k`; `env 12` numbers `main`'s own stretches, the headers
(0) and the `print` and headers after call `k` (`k + 1`). -/
def main (env : Nat → Nat → Option Thrown) (gpuPtr hostPtr : Nat → Int) : Stmt :=
  .seqs [.outside (env 12 0),
    .forEach sizes.enum fun (k, size) =>
      .seq (.call (benchmarkTransfer size false (env k) (gpuPtr k) (hostPtr k)))
        (.outside (env 12 (k + 1))),
    .forEach sizes.enum fun (k, size) =>
      .seq (.call (compareWithCupyTransfer size (env (4 + k)) (gpuPtr (4 + k)) (hostPtr (4 + k))))
        (.outside (env 12 (5 + k))),
    .forEach sizes.enum fun (k, size) =>
      .seq (.call (benchmarkTransfer size true (env (8 + k)) (gpuPtr (8 + k)) (hostPtr (8 + k))))
        (.outside (env 12 (9 + k)))]

end CudaIntegration

end GdrCopy
