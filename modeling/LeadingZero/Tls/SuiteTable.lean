/-!
# Cipher suites and their names

The registered cipher suites by number, and those of them whose key exchange is known to be
Diffie-Hellman over a finite field.
-/

namespace LeadingZero
namespace Tls

/-- The suites known to use Diffie-Hellman over a finite field. -/
def knownDhSuites : List Int := [
    0x0013, 0x0016, 0x0018, 0x001b, 0x0032, 0x0033, 0x0034, 0x0038, 0x0039, 0x003a, 0x0040, 0x0067,
    0x006a, 0x006b, 0x006c, 0x006d, 0x009e, 0x009f, 0x00a2, 0x00a3, 0x00a6, 0x00a7, 0xc09e, 0xc09f,
    0xc0a2, 0xc0a3, 0xcca3, 0xccaa]

/-- The registered names of the suites. -/
def registeredSuites : List (Int × String) := [
    (0x0001, "TLS_RSA_WITH_NULL_MD5"),
    (0x0002, "TLS_RSA_WITH_NULL_SHA"),
    (0x0004, "TLS_RSA_WITH_RC4_128_MD5"),
    (0x0005, "TLS_RSA_WITH_RC4_128_SHA"),
    (0x000a, "TLS_RSA_WITH_3DES_EDE_CBC_SHA"),
    (0x000d, "TLS_DH_DSS_WITH_3DES_EDE_CBC_SHA"),
    (0x0013, "TLS_DHE_DSS_WITH_3DES_EDE_CBC_SHA"),
    (0x0016, "TLS_DHE_RSA_WITH_3DES_EDE_CBC_SHA"),
    (0x0018, "TLS_DH_ANON_WITH_RC4_128_MD5"),
    (0x001b, "TLS_DH_ANON_WITH_3DES_EDE_CBC_SHA"),
    (0x002f, "TLS_RSA_WITH_AES_128_CBC_SHA"),
    (0x0030, "TLS_DH_DSS_WITH_AES_128_CBC_SHA"),
    (0x0032, "TLS_DHE_DSS_WITH_AES_128_CBC_SHA"),
    (0x0033, "TLS_DHE_RSA_WITH_AES_128_CBC_SHA"),
    (0x0034, "TLS_DH_ANON_WITH_AES_128_CBC_SHA"),
    (0x0035, "TLS_RSA_WITH_AES_256_CBC_SHA"),
    (0x0036, "TLS_DH_DSS_WITH_AES_256_CBC_SHA"),
    (0x0038, "TLS_DHE_DSS_WITH_AES_256_CBC_SHA"),
    (0x0039, "TLS_DHE_RSA_WITH_AES_256_CBC_SHA"),
    (0x003a, "TLS_DH_ANON_WITH_AES_256_CBC_SHA"),
    (0x003b, "TLS_RSA_WITH_NULL_SHA256"),
    (0x003c, "TLS_RSA_WITH_AES_128_CBC_SHA256"),
    (0x003d, "TLS_RSA_WITH_AES_256_CBC_SHA256"),
    (0x003e, "TLS_DH_DSS_WITH_AES_128_CBC_SHA256"),
    (0x0040, "TLS_DHE_DSS_WITH_AES_128_CBC_SHA256"),
    (0x0067, "TLS_DHE_RSA_WITH_AES_128_CBC_SHA256"),
    (0x0068, "TLS_DH_DSS_WITH_AES_256_CBC_SHA256"),
    (0x006a, "TLS_DHE_DSS_WITH_AES_256_CBC_SHA256"),
    (0x006b, "TLS_DHE_RSA_WITH_AES_256_CBC_SHA256"),
    (0x006c, "TLS_DH_ANON_WITH_AES_128_CBC_SHA256"),
    (0x006d, "TLS_DH_ANON_WITH_AES_256_CBC_SHA256"),
    (0x009c, "TLS_RSA_WITH_AES_128_GCM_SHA256"),
    (0x009d, "TLS_RSA_WITH_AES_256_GCM_SHA384"),
    (0x009e, "TLS_DHE_RSA_WITH_AES_128_GCM_SHA256"),
    (0x009f, "TLS_DHE_RSA_WITH_AES_256_GCM_SHA384"),
    (0x00a2, "TLS_DHE_DSS_WITH_AES_128_GCM_SHA256"),
    (0x00a3, "TLS_DHE_DSS_WITH_AES_256_GCM_SHA384"),
    (0x00a4, "TLS_DH_DSS_WITH_AES_128_GCM_SHA256"),
    (0x00a5, "TLS_DH_DSS_WITH_AES_256_GCM_SHA384"),
    (0x00a6, "TLS_DH_ANON_WITH_AES_128_GCM_SHA256"),
    (0x00a7, "TLS_DH_ANON_WITH_AES_256_GCM_SHA384"),
    (0x00ff, "TLS_EMPTY_RENEGOTIATION_INFO_SCSV"),
    (0x1301, "TLS_AES_128_GCM_SHA256"),
    (0x1302, "TLS_AES_256_GCM_SHA384"),
    (0x1303, "TLS_CHACHA20_POLY1305_SHA256"),
    (0x1304, "TLS_AES_128_CCM_SHA256"),
    (0x1305, "TLS_AES_128_CCM_8_SHA256"),
    (0x5600, "TLS_FALLBACK_SCSV"),
    (0xc001, "TLS_ECDH_ECDSA_WITH_NULL_SHA"),
    (0xc002, "TLS_ECDH_ECDSA_WITH_RC4_128_SHA"),
    (0xc003, "TLS_ECDH_ECDSA_WITH_3DES_EDE_CBC_SHA"),
    (0xc004, "TLS_ECDH_ECDSA_WITH_AES_128_CBC_SHA"),
    (0xc005, "TLS_ECDH_ECDSA_WITH_AES_256_CBC_SHA"),
    (0xc006, "TLS_ECDHE_ECDSA_WITH_NULL_SHA"),
    (0xc007, "TLS_ECDHE_ECDSA_WITH_RC4_128_SHA"),
    (0xc008, "TLS_ECDHE_ECDSA_WITH_3DES_EDE_CBC_SHA"),
    (0xc009, "TLS_ECDHE_ECDSA_WITH_AES_128_CBC_SHA"),
    (0xc00a, "TLS_ECDHE_ECDSA_WITH_AES_256_CBC_SHA"),
    (0xc00b, "TLS_ECDH_RSA_WITH_NULL_SHA"),
    (0xc00c, "TLS_ECDH_RSA_WITH_RC4_128_SHA"),
    (0xc00d, "TLS_ECDH_RSA_WITH_3DES_EDE_CBC_SHA"),
    (0xc00e, "TLS_ECDH_RSA_WITH_AES_128_CBC_SHA"),
    (0xc00f, "TLS_ECDH_RSA_WITH_AES_256_CBC_SHA"),
    (0xc010, "TLS_ECDHE_RSA_WITH_NULL_SHA"),
    (0xc011, "TLS_ECDHE_RSA_WITH_RC4_128_SHA"),
    (0xc012, "TLS_ECDHE_RSA_WITH_3DES_EDE_CBC_SHA"),
    (0xc013, "TLS_ECDHE_RSA_WITH_AES_128_CBC_SHA"),
    (0xc014, "TLS_ECDHE_RSA_WITH_AES_256_CBC_SHA"),
    (0xc015, "TLS_ECDH_ANON_WITH_NULL_SHA"),
    (0xc016, "TLS_ECDH_ANON_WITH_RC4_128_SHA"),
    (0xc017, "TLS_ECDH_ANON_WITH_3DES_EDE_CBC_SHA"),
    (0xc018, "TLS_ECDH_ANON_WITH_AES_128_CBC_SHA"),
    (0xc019, "TLS_ECDH_ANON_WITH_AES_256_CBC_SHA"),
    (0xc01a, "TLS_SRP_SHA_WITH_3DES_EDE_CBC_SHA"),
    (0xc01b, "TLS_SRP_SHA_RSA_WITH_3DES_EDE_CBC_SHA"),
    (0xc01c, "TLS_SRP_SHA_DSS_WITH_3DES_EDE_CBC_SHA"),
    (0xc01d, "TLS_SRP_SHA_WITH_AES_128_CBC_SHA"),
    (0xc01e, "TLS_SRP_SHA_RSA_WITH_AES_128_CBC_SHA"),
    (0xc01f, "TLS_SRP_SHA_DSS_WITH_AES_128_CBC_SHA"),
    (0xc020, "TLS_SRP_SHA_WITH_AES_256_CBC_SHA"),
    (0xc021, "TLS_SRP_SHA_RSA_WITH_AES_256_CBC_SHA"),
    (0xc022, "TLS_SRP_SHA_DSS_WITH_AES_256_CBC_SHA"),
    (0xc023, "TLS_ECDHE_ECDSA_WITH_AES_128_CBC_SHA256"),
    (0xc024, "TLS_ECDHE_ECDSA_WITH_AES_256_CBC_SHA384"),
    (0xc025, "TLS_ECDH_ECDSA_WITH_AES_128_CBC_SHA256"),
    (0xc026, "TLS_ECDH_ECDSA_WITH_AES_256_CBC_SHA384"),
    (0xc027, "TLS_ECDHE_RSA_WITH_AES_128_CBC_SHA256"),
    (0xc028, "TLS_ECDHE_RSA_WITH_AES_256_CBC_SHA384"),
    (0xc029, "TLS_ECDH_RSA_WITH_AES_128_CBC_SHA256"),
    (0xc02a, "TLS_ECDH_RSA_WITH_AES_256_CBC_SHA384"),
    (0xc02b, "TLS_ECDHE_ECDSA_WITH_AES_128_GCM_SHA256"),
    (0xc02c, "TLS_ECDHE_ECDSA_WITH_AES_256_GCM_SHA384"),
    (0xc02d, "TLS_ECDH_ECDSA_WITH_AES_128_GCM_SHA256"),
    (0xc02e, "TLS_ECDH_ECDSA_WITH_AES_256_GCM_SHA384"),
    (0xc02f, "TLS_ECDHE_RSA_WITH_AES_128_GCM_SHA256"),
    (0xc030, "TLS_ECDHE_RSA_WITH_AES_256_GCM_SHA384"),
    (0xc031, "TLS_ECDH_RSA_WITH_AES_128_GCM_SHA256"),
    (0xc032, "TLS_ECDH_RSA_WITH_AES_256_GCM_SHA384"),
    (0xc09c, "TLS_RSA_WITH_AES_128_CCM"),
    (0xc09d, "TLS_RSA_WITH_AES_256_CCM"),
    (0xc09e, "TLS_DHE_RSA_WITH_AES_128_CCM"),
    (0xc09f, "TLS_DHE_RSA_WITH_AES_256_CCM"),
    (0xc0a0, "TLS_RSA_WITH_AES_128_CCM_8"),
    (0xc0a1, "TLS_RSA_WITH_AES_256_CCM_8"),
    (0xc0a2, "TLS_DHE_RSA_WITH_AES_128_CCM_8"),
    (0xc0a3, "TLS_DHE_RSA_WITH_AES_256_CCM_8"),
    (0xc0ac, "TLS_ECDHE_ECDSA_WITH_AES_128_CCM"),
    (0xc0ad, "TLS_ECDHE_ECDSA_WITH_AES_256_CCM"),
    (0xc0ae, "TLS_ECDHE_ECDSA_WITH_AES_128_CCM_8"),
    (0xc0af, "TLS_ECDHE_ECDSA_WITH_AES_256_CCM_8"),
    (0xcca1, "TLS_ECDHE_RSA_WITH_CHACHA20_POLY1305_draft_00"),
    (0xcca2, "TLS_ECDHE_ECDSA_WITH_CHACHA20_POLY1305_draft_00"),
    (0xcca3, "TLS_DHE_RSA_WITH_CHACHA20_POLY1305_draft_00"),
    (0xcca8, "TLS_ECDHE_RSA_WITH_CHACHA20_POLY1305_SHA256"),
    (0xcca9, "TLS_ECDHE_ECDSA_WITH_CHACHA20_POLY1305_SHA256"),
    (0xccaa, "TLS_DHE_RSA_WITH_CHACHA20_POLY1305_SHA256"),
    (0x10080, "SSL_CK_RC4_128_WITH_MD5"),
    (0x20080, "SSL_CK_RC4_128_EXPORT40_WITH_MD5"),
    (0x30080, "SSL_CK_RC2_128_CBC_WITH_MD5"),
    (0x40080, "SSL_CK_RC2_128_CBC_EXPORT40_WITH_MD5"),
    (0x50080, "SSL_CK_IDEA_128_CBC_WITH_MD5"),
    (0x60040, "SSL_CK_DES_64_CBC_WITH_MD5"),
    (0x700c0, "SSL_CK_DES_192_EDE3_CBC_WITH_MD5")]

end Tls
end LeadingZero
